/-
# What names lead to

Names lead from a node to the nodes of its fields, one field after the other
(`Node.along`).  They lead on if the next name is that of a field of nodes wherever they
have led to (`Node.Leads`), and gathering nodes along a dotted name succeeds exactly if
its segments lead on from every node (`followSegments_eq_ok_iff`).
-/

import RecordQuery.Dataset.Related
import RecordQuery.Proofs.Built

namespace RecordQuery

namespace Node

/-- The nodes of the field with a name. -/
def relatedIn (name : String) (n : Node) : List Node :=
  (n.get? name).elim [] Field.related

/-- Whether the field with a name is there and holds nodes. -/
def HasRelated (name : String) (n : Node) : Prop :=
  ∃ field, n.get? name = some field ∧ field.isRelated

/-- The nodes that names lead to from a node, one field after the other. -/
def along : List String → Node → List Node
  | [], n => [n]
  | name :: names, n => (n.relatedIn name).flatMap (along names)

/-- Wherever names lead from a node, the next one is that of a field of nodes. -/
def Leads : List String → Node → Prop
  | [], _ => True
  | name :: names, n => n.HasRelated name ∧ ∀ child ∈ n.relatedIn name, Leads names child

variable {n : Node} {name : String} {names : List String} {field : Field}

/-- The nodes of a field that is there are what it holds. -/
theorem relatedIn_eq (h : n.get? name = some field) : n.relatedIn name = field.related := by
  rw [relatedIn, h]
  rfl

/-- No names lead nowhere else. -/
theorem along_nil (nodes : List Node) : nodes.flatMap (along []) = nodes :=
  List.flatMap_singleton' nodes

/-- The nodes of a field of a named node are named. -/
theorem Named.of_relatedIn (hn : n.Named) {child : Node} (hchild : child ∈ n.relatedIn name) :
    child.Named := by
  cases hget : n.get? name with
  | none => simp [relatedIn, hget] at hchild
  | some field => exact hn.of_related hget (relatedIn_eq hget ▸ hchild)

/-- Names lead from an indexed node to indexed ones. -/
theorem Indexed.of_along (hn : n.Indexed) {child : Node} (hchild : child ∈ n.along names) :
    child.Indexed := by
  induction names generalizing n with
  | nil => exact List.mem_singleton.1 hchild ▸ hn
  | cons name names ih =>
    obtain ⟨between, hbetween, hchild⟩ := List.mem_flatMap.1 hchild
    cases hget : n.get? name with
    | none => simp [relatedIn, hget] at hbetween
    | some field =>
      rw [relatedIn_eq hget] at hbetween
      exact ih (hn.of_related hget hbetween) hchild

end Node

/-! ### Gathering nodes -/

section Gathering

variable {written name : String} {n : Node} {nodes gathered : List Node}

/-- The nodes of the first node come first. -/
theorem relatedNodes_cons {field : Field} (h : n.get? name = some field)
    (hr : field.isRelated) : relatedNodes written name (n :: nodes) =
      (relatedNodes written name nodes).map (field.related ++ ·) := by
  rw [relatedNodes, Node.get_eq_ok_iff.2 h]
  simp only [bind, Except.bind, hr, if_true]
  cases relatedNodes written name nodes <;> rfl

/-- If nodes can be gathered, the field of the first node holds some. -/
theorem hasRelated_of_relatedNodes (h : relatedNodes written name (n :: nodes) = .ok gathered) :
    n.HasRelated name := by
  rw [relatedNodes] at h
  obtain ⟨field, hget, h⟩ := bind_eq_ok_iff.1 h
  split at h
  · exact ⟨field, Node.get_eq_ok_iff.1 hget, ‹_›⟩
  · cases h

/-- Nodes can be gathered along one name if its field holds nodes everywhere. -/
theorem relatedNodes_eq_ok_iff : relatedNodes written name nodes = .ok gathered ↔
    (∀ n ∈ nodes, n.HasRelated name) ∧ gathered = nodes.flatMap (Node.relatedIn name) := by
  induction nodes generalizing gathered with
  | nil => simp [relatedNodes, eq_comm]
  | cons n nodes ih =>
    rw [List.forall_mem_cons, List.flatMap_cons]
    constructor
    · intro h
      obtain ⟨field, hget, hr⟩ := hasRelated_of_relatedNodes h
      rw [relatedNodes_cons hget hr] at h
      obtain ⟨rest, hrest, rfl⟩ := map_eq_ok_iff.1 h
      obtain ⟨hall, rfl⟩ := ih.1 hrest
      exact ⟨⟨⟨field, hget, hr⟩, hall⟩, by rw [Node.relatedIn_eq hget]⟩
    · rintro ⟨⟨⟨field, hget, hr⟩, hall⟩, rfl⟩
      rw [relatedNodes_cons hget hr, Node.relatedIn_eq hget]
      exact map_eq_ok_iff.2 ⟨_, ih.2 ⟨hall, rfl⟩, rfl⟩

/-- **Gathering nodes succeeds if the names lead on everywhere,** and gives the nodes
that they lead to, in order. -/
theorem followSegments_eq_ok_iff {names : List String} (hnames : ∀ name ∈ names, name ≠ "") :
    followSegments written names nodes = .ok gathered ↔
      (∀ n ∈ nodes, n.Leads names) ∧ gathered = nodes.flatMap (Node.along names) := by
  induction names generalizing nodes with
  | nil => simp [followSegments, Node.Leads, Node.along_nil, eq_comm]
  | cons name names ih =>
    obtain ⟨hname, hnames⟩ := List.forall_mem_cons.1 hnames
    have hstep : followSegments written (name :: names) nodes =
        relatedNodes written name nodes >>= followSegments written names := by
      rw [followSegments, if_neg hname]
    have hflat : nodes.flatMap (Node.along (name :: names)) =
        (nodes.flatMap (Node.relatedIn name)).flatMap (Node.along names) :=
      List.flatMap_assoc.symm
    rw [hstep, bind_eq_ok_iff, hflat]
    simp only [relatedNodes_eq_ok_iff, ih hnames, Node.Leads]
    grind

end Gathering

/-- Names without dots are found again between dots. -/
theorem dottedSegments_intercalate {names : List String} (hne : names ≠ [])
    (hnames : ∀ name ∈ names, '.' ∉ name.toList) :
    dottedSegments (".".intercalate names) = names := by
  have hpieces : ∀ piece ∈ names.map String.toList, '.' ∉ piece := by simpa using hnames
  have hsplit : (".".intercalate names).toList.splitOn '.' = names.map String.toList := by
    rw [String.toList_intercalate]
    exact List.splitOn_intercalate '.' hpieces (by simpa using hne)
  rw [dottedSegments, hsplit, List.map_map]
  simp [Function.comp_def]

end RecordQuery
