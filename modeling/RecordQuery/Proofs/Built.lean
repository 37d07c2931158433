/-
# What all nodes have in common

A node is made from a record, taken out of a field of another node, or narrowed
(`Node.Built`), and there is no other way: the operations on datasets only choose
among nodes, narrow them or follow their fields (`Dataset.Built.choose`,
`Dataset.Built.filterRelated`).  So what holds of the nodes of records, and survives
being taken out of a field and being narrowed, holds of all nodes.

That the fields of a node are indexed by their names is of this kind
(`Node.Built.indexed`): narrowing goes by the names that fields bear and makes a table
of its own, but in an indexed node it finds what is found in the table, and the
narrowed node is indexed by the same names (`Node.Indexed.of_narrow`).
-/

import RecordQuery.Dataset.Related
import RecordQuery.Dataset.Union
import RecordQuery.Proofs.Narrowing

namespace RecordQuery

/-- Getting a field is finding it. -/
theorem Node.get_eq_ok_iff {n : Node} {name : String} {field : Field} :
    n.get name = .ok field ↔ n.get? name = some field := by
  rw [get]
  cases n.get? name <;> simp

variable [PatternEngine]

/-- A node that comes from a record. -/
inductive Node.Built : Node → Prop where
  | ofRecord {record : Json} {n : Node} : record.Distinct → Node.ofRecord record = .ok n →
    Node.Built n
  | related {n child : Node} {name : String} {field : Field} : Node.Built n →
    n.get? name = some field → child ∈ field.related → Node.Built child
  | narrow {selection : Selection} {clauses : List Clause} {n n' : Node} : Node.Built n →
    n.narrow selection clauses = .ok n' → Node.Built n'

/-- A dataset of nodes that come from records. -/
def Dataset.Built (d : Dataset) : Prop := ∀ n ∈ d.nodes, n.Built

variable {selection : Selection} {clauses : List Clause}

/-! ### Where narrowed nodes come from -/

/-- A member of a narrowed dataset is one of the members before, narrowed. -/
theorem exists_of_narrowMembers {members members' : List Node}
    (h : narrowMembers selection clauses members = .ok members') {m' : Node} (hm' : m' ∈ members') :
    ∃ m ∈ members, m.narrow selection clauses = .ok m' := by
  obtain ⟨-, hforall⟩ := narrowMembers_eq_ok_iff.1 h
  obtain ⟨m, hm, hnarrow⟩ := exists_mem_of_forall₂ hforall hm'
  exact ⟨m, List.mem_of_mem_filter hm, hnarrow⟩

/-- **What narrowing does with a field.**  It stays as it is if there are no clauses for
it or it holds no nodes; otherwise its node is narrowed, or its members are. -/
theorem Content.cases_of_narrow {content content' : Content}
    (h : content.narrow selection clauses = .ok content') :
    (content' = content ∧ (clauses = [] ∨ content.related = [])) ∨
    (∃ n n', content = .node n ∧ content' = .node n' ∧ n.narrow selection clauses = .ok n') ∨
    ∃ members members', content = .dataset members ∧ content' = .dataset members' ∧
      narrowMembers selection clauses members = .ok members' := by
  by_cases hnone : clauses = []
  · rw [hnone, narrow_nil] at h
    exact .inl ⟨(Except.ok.inj h).symm, .inl hnone⟩
  · cases content with
    | scalar s => exact .inl ⟨(Except.ok.inj h).symm, .inr rfl⟩
    | array items => exact .inl ⟨(Except.ok.inj h).symm, .inr rfl⟩
    | node n =>
      rw [narrow_node, map_eq_ok_iff] at h
      obtain ⟨n', hn, rfl⟩ := h
      exact .inr (.inl ⟨n, n', rfl, rfl, hn⟩)
    | dataset members =>
      rw [narrow_dataset hnone, map_eq_ok_iff] at h
      obtain ⟨members', hmembers, rfl⟩ := h
      exact .inr (.inr ⟨members, members', rfl, rfl, hmembers⟩)

/-- Narrowing by no clauses changes nothing, so this also speaks of fields that no
clause leads into. -/
theorem Content.exists_of_narrow {content content' : Content}
    (h : content.narrow selection clauses = .ok content') {child' : Node}
    (hchild' : child' ∈ content'.related) :
    ∃ child ∈ content.related, child.narrow selection clauses = .ok child' := by
  rcases cases_of_narrow h with ⟨rfl, rfl | hvalue⟩ | ⟨n, n', rfl, rfl, hn⟩ |
    ⟨members, members', rfl, rfl, hmembers⟩
  · exact ⟨child', hchild', child'.narrow_nil⟩
  · rw [hvalue] at hchild'
    exact absurd hchild' List.not_mem_nil
  · obtain rfl := List.mem_singleton.1 hchild'
    exact ⟨n, List.mem_singleton.2 rfl, hn⟩
  · exact exists_of_narrowMembers hmembers hchild'

/-- **A narrowed node has the fields of the node,** each narrowed and under the same
name. -/
theorem Node.Named.forall₂_of_narrow {n n' : Node} (hn : n.Named)
    (h : n.narrow selection clauses = .ok n') :
    List.Forall₂ (fun entry entry' => entry.1 = entry'.1 ∧ entry'.2.name = entry'.1 ∧
      entry.2.content.narrow selection (Clause.under entry.1 clauses) = .ok entry'.2.content)
        n.fields n'.fields := by
  obtain ⟨hnames, -⟩ := hn
  rw [narrow_eq_map hnames, map_eq_ok_iff] at h
  obtain ⟨fields', hfields, rfl⟩ := h
  rw [narrowFields_eq_mapM, mapM_eq_ok_iff] at hfields
  refine ((List.forall₂_and_left ..).2 ⟨hnames, hfields⟩).imp ?_
  rintro ⟨name, field⟩ entry' ⟨hname, hentry⟩
  obtain rfl : field.name = name := hname
  obtain ⟨field', hfield, rfl⟩ := map_eq_ok_iff.1 hentry
  obtain ⟨hname', hcontent⟩ := Field.narrow_eq_ok_iff.1 hfield
  exact ⟨rfl, hname', hcontent⟩

/-- A narrowed node has the names of the node, in the same order. -/
theorem Node.Named.names_of_narrow {n n' : Node} (hn : n.Named)
    (h : n.narrow selection clauses = .ok n') : n'.names = n.names :=
  (Entries.names_eq_of_forall₂ ((hn.forall₂_of_narrow h).imp fun _ _ hentry => hentry.1)).symm

/-! ### Names -/

/-- **A narrowed node is indexed** by the names that the node is indexed by. -/
theorem Node.Indexed.of_narrow {n n' : Node} (hn : n.Indexed)
    (h : n.narrow selection clauses = .ok n') : n'.Indexed := by
  induction n using Node.induction generalizing clauses n' with
  | step n ih =>
    have hfields := hn.named.forall₂_of_narrow h
    have hchildren : ∀ entry' ∈ n'.fields, ∀ child' ∈ entry'.2.related, child'.Indexed := by
      intro entry' hentry' child' hchild'
      obtain ⟨⟨name, field⟩, hentry, -, -, hcontent⟩ := exists_mem_of_forall₂ hfields hentry'
      obtain ⟨child, hchild, hnarrow⟩ := Content.exists_of_narrow hcontent hchild'
      have hget : n.get? name = some field := hn.distinct.get?_of_mem hentry
      exact ih name field hentry child hchild (hn.of_related hget hchild) hnarrow
    have hnames : ∀ entry' ∈ n'.fields, entry'.2.name = entry'.1 := fun entry' hentry' => by
      obtain ⟨entry, -, -, hname, -⟩ := exists_mem_of_forall₂ hfields hentry'
      exact hname
    obtain ⟨hdistinct, -⟩ := hn.distinct
    exact ⟨.intro hnames fun entry' hentry' child' hchild' =>
        (hchildren entry' hentry' child' hchild').named,
      .intro (hn.named.names_of_narrow h ▸ hdistinct) fun entry' hentry' child' hchild' =>
        (hchildren entry' hentry' child' hchild').distinct⟩

/-- **Every node that comes from a record is indexed by the names of its fields,** at any
depth. -/
theorem Node.Built.indexed {n : Node} (h : n.Built) : n.Indexed := by
  induction h with
  | ofRecord hrecord h => exact ⟨named_of_ofRecord h, distinct_of_ofRecord hrecord h⟩
  | related _ hget hchild ih => exact ih.of_related hget hchild
  | narrow _ h ih => exact ih.of_narrow h

/-! ### Datasets -/

namespace Dataset

/-- A node that is selected is a node of the dataset, as it was or narrowed. -/
theorem exists_of_select {d r : Dataset} (h : d.select selection clauses = .ok r) {n' : Node}
    (hn' : n' ∈ r.nodes) :
    ∃ n ∈ d.nodes, n' = n ∨ n.narrow selection clauses = .ok n' := by
  unfold select at h
  split at h
  · cases h
    exact ⟨n', hn', .inl rfl⟩
  split at h
  · obtain ⟨nodes, hnodes, rfl⟩ := map_eq_ok_iff.1 h
    obtain ⟨n, hn, hnarrow⟩ := exists_of_narrowMembers hnodes hn'
    exact ⟨n, hn, .inr hnarrow⟩
  · obtain ⟨nodes, hnodes, rfl⟩ := map_eq_ok_iff.1 h
    obtain ⟨-, rfl⟩ := selectNodes_eq_ok_iff.1 hnodes
    exact ⟨n', List.mem_of_mem_filter hn', .inl rfl⟩

namespace Built

variable {d e r : Dataset}

/-- The nodes of a list of records come from records. -/
theorem ofRecords {records : List Json} (hrecords : ∀ record ∈ records, record.Distinct)
    (h : Dataset.ofRecords records = .ok d) : d.Built := by
  intro n hn
  obtain ⟨nodes, hnodes, rfl⟩ := map_eq_ok_iff.1 h
  obtain ⟨record, hrecord, members, fields, rfl, rfl, hfields⟩ :=
    exists_mem_of_forall₂ (forall₂_of_classifyRecords hnodes) hn
  exact .ofRecord (hrecords _ hrecord) (map_eq_ok_iff.2 ⟨fields, hfields, rfl⟩)

/-- So do those of one record, or of an array of records. -/
theorem ofJson {value : Json} (hvalue : value.Distinct) (h : Dataset.ofJson value = .ok d) :
    d.Built := by
  cases hvalue with
  | array hitems => exact ofRecords hitems h
  | @object members hnames hmembers =>
    obtain ⟨fields, hfields, rfl⟩ := map_eq_ok_iff.1 h
    intro n hn
    obtain rfl := List.mem_singleton.1 hn
    exact .ofRecord (.object hnames hmembers) (map_eq_ok_iff.2 ⟨fields, hfields, rfl⟩)
  | _ => simp [Dataset.ofJson] at h

/-- So does what is loaded from a text, if the format reads no value in which an object
has a name twice. -/
theorem ofText [Json.Format] {text : String}
    (hread : ∀ value, Json.Format.read? text = some value → value.Distinct)
    (h : Dataset.ofText text = .ok d) : d.Built := by
  unfold Dataset.ofText at h
  split at h
  · rename_i value hvalue
    exact ofJson (hread value hvalue) h
  · simp at h

/-- Filtering and excluding keep or narrow nodes that were there. -/
theorem choose {selection : Selection} {registry : Registry} {q : Query} (hd : d.Built)
    (h : d.choose selection registry q = .ok r) : r.Built := by
  intro n' hn'
  rw [choose_eq] at h
  obtain ⟨clauses, -, h⟩ := bind_eq_ok_iff.1 h
  obtain ⟨n, hn, rfl | hnarrow⟩ := exists_of_select h hn'
  · exact hd _ hn
  · exact .narrow (hd n hn) hnarrow

/-- What one segment leads to is taken out of fields. -/
theorem relatedNodes {name segment : String} {nodes nodes' : List Node}
    (hnodes : ∀ n ∈ nodes, n.Built) (h : relatedNodes name segment nodes = .ok nodes') :
    ∀ n ∈ nodes', n.Built := by
  induction nodes generalizing nodes' with
  | nil =>
    cases h
    exact hnodes
  | cons n nodes ih =>
    obtain ⟨hn, hnodes⟩ := List.forall_mem_cons.1 hnodes
    rw [RecordQuery.relatedNodes] at h
    obtain ⟨field, hget, h⟩ := bind_eq_ok_iff.1 h
    split at h
    · obtain ⟨rest, hrest, h⟩ := bind_eq_ok_iff.1 h
      cases h
      intro child hchild
      rcases List.mem_append.1 hchild with hchild | hchild
      · exact .related hn (Node.get_eq_ok_iff.1 hget) hchild
      · exact ih hnodes hrest child hchild
    · cases h

/-- What a path leads to is taken out of fields. -/
theorem followSegments {name : String} {segments : List String} {nodes nodes' : List Node}
    (hnodes : ∀ n ∈ nodes, n.Built) (h : followSegments name segments nodes = .ok nodes') :
    ∀ n ∈ nodes', n.Built := by
  induction segments generalizing nodes with
  | nil =>
    cases h
    exact hnodes
  | cons segment segments ih =>
    rw [RecordQuery.followSegments] at h
    split at h
    · cases h
    · obtain ⟨between, hbetween, h⟩ := bind_eq_ok_iff.1 h
      exact ih (relatedNodes hnodes hbetween) h

/-- Filtering nested nodes makes no others. -/
theorem filterRelated {registry : Registry} {name : String} {q : Query} (hd : d.Built)
    (h : d.filterRelated registry name q = .ok r) : r.Built := by
  obtain ⟨nodes, hnodes, h⟩ := bind_eq_ok_iff.1 h
  have hnodes : Dataset.Built ⟨nodes, d.cascade⟩ := followSegments hd hnodes
  have hchoose : Dataset.choose .matching registry q ⟨nodes, d.cascade⟩ = .ok r := h
  exact hnodes.choose hchoose

/-- Dropping repeats makes no nodes. -/
theorem distinct (hd : d.Built) : d.distinct.Built := fun n hn =>
  hd n ((dropRepeats_sublist ..).subset hn)

/-- A union holds the nodes of the two. -/
theorem union (hd : d.Built) (he : e.Built) : (d.union e).Built := by
  intro n hn
  rcases List.mem_append.1 hn with hn | hn
  · exact hd n ((dropRepeats_sublist ..).subset hn)
  · exact he n ((dropRepeats_sublist ..).subset hn)

/-- Chaining datasets makes no nodes. -/
theorem concat {ds : List Dataset} (hds : ∀ d ∈ ds, d.Built) : (concat ds).Built := by
  intro n hn
  obtain ⟨d, hd, hn⟩ := List.mem_flatMap.1 hn
  exact hds d hd n hn

end Built
end Dataset
end RecordQuery
