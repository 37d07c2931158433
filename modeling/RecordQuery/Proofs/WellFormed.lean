/-
# What every node looks like

Classifying a record refuses some names, mixed arrays and deep nesting, and it reads
an empty array as an empty dataset.  So the fields of a node that comes from a record
bear the names that they stand under, which are without the separator; they are not
enclosed by too many others, and hold no empty array and no number that JSON could
not write (`Node.WellFormed`).

Nodes that are taken out of a field or narrowed stay well formed
(`Node.Built.wellFormed`), even where narrowing empties a dataset: a dataset may have
no members, an array of scalars must have some.
-/

import RecordQuery.Proofs.Built

namespace RecordQuery

/-- A number as records hold it: unsigned only if it is too large for a signed one,
and otherwise finite. -/
def Number.IsStored : Number → Prop
  | .signed _ => True
  | .unsigned n => 2 ^ 63 ≤ n.toNat
  | .float x => x.isFinite

/-- A scalar as records hold it. -/
def Scalar.IsStored : Scalar → Prop
  | .number n => n.IsStored
  | _ => True

/-- The values of a field as records hold them; an array of scalars is not empty. -/
def Content.IsStored : Content → Prop
  | .scalar s => s.IsStored
  | .array items => items ≠ [] ∧ ∀ s ∈ items, s.IsStored
  | .node _ | .dataset _ => True

/-- A field under its name as records have it, enclosed by `depth` others. -/
structure FieldStored (depth : Nat) (entry : String × Field) : Prop where
  named : entry.2.name = entry.1
  unsplit : Segments.isSplit entry.1 = false
  enclosed : depth ≤ maxDepth
  stored : entry.2.content.IsStored

/-- A node whose fields, enclosed by `depth` others, are as records have them, and so
on below it. -/
inductive Node.WellFormed : Nat → Node → Prop where
  | intro {depth : Nat} {n : Node} : (∀ entry ∈ n.fields, FieldStored depth entry) →
    (∀ entry ∈ n.fields, ∀ child ∈ entry.2.related, Node.WellFormed (depth + 1) child) →
      Node.WellFormed depth n

/-! ### Classified records -/

/-- A number of a record is stored as records store it. -/
theorem JsonNumber.isStored_toNumber (n : JsonNumber) : n.toNumber.IsStored := by
  cases n with
  | int n fits =>
    rw [toNumber]
    split
    · trivial
    · rw [Number.IsStored, UInt64.toNat_ofNat']
      omega
  | float x finite => exact finite

/-- So is a leaf. -/
theorem Scalar.isStored_of_ofJson? {value : Json} {s : Scalar} (h : ofJson? value = some s) :
    s.IsStored := by
  cases value with
  | number n =>
    cases h
    exact n.isStored_toNumber
  | array items => simp [ofJson?] at h
  | object members => simp [ofJson?] at h
  | _ =>
    cases h
    trivial

/-- An array of scalars holds the scalars of its items. -/
theorem forall₂_of_scalarItems {name : String} {items : List Json} {scalars : List Scalar}
    (h : scalarItems name items = .ok scalars) :
    List.Forall₂ (fun item s => Scalar.ofJson? item = some s) items scalars := by
  rw [scalarItems_eq_mapM, mapM_eq_ok_iff] at h
  refine h.imp fun item s hitem => ?_
  cases hs : Scalar.ofJson? item with
  | none =>
    rw [hs] at hitem
    cases hitem
  | some s' =>
    rw [hs] at hitem
    exact congrArg some (Except.ok.inj hitem)

/-- **A classified field is as records have it.** -/
theorem fieldStored_of_classify {depth : Nat} {name : String} {value : Json} {field : Field}
    (h : Field.classify depth name value = .ok field) : FieldStored depth (name, field) := by
  obtain ⟨own, content⟩ := field
  obtain ⟨hname, h⟩ := Field.classify_eq_ok_iff.1 h
  obtain ⟨⟨hsplit, hdepth⟩, ⟨s, hs, rfl⟩ | ⟨items, scalars, rfl, hmixed, hscalars, rfl⟩ |
    ⟨members, fields, rfl, -, rfl⟩ | ⟨items, nodes, rfl, -, rfl⟩⟩ := Content.cases_of_classify h
  · exact ⟨hname, hsplit, hdepth, Scalar.isStored_of_ofJson? hs⟩
  · have hitems := forall₂_of_scalarItems hscalars
    refine ⟨hname, hsplit, hdepth, ?_, fun s hs => ?_⟩
    · rintro rfl
      cases hitems
      cases hmixed
    · obtain ⟨item, -, hitem⟩ := exists_mem_of_forall₂ hitems hs
      exact Scalar.isStored_of_ofJson? hitem
  · exact ⟨hname, hsplit, hdepth, trivial⟩
  · exact ⟨hname, hsplit, hdepth, trivial⟩

/-- **A classified record is well formed.**  The induction is on the node, since the
nodes of a field come from records of their own. -/
theorem wellFormed_of_classifyMembers (n : Node) : ∀ {depth : Nat} {members : List (String × Json)},
    classifyMembers depth members = .ok n.fields → n.WellFormed depth := by
  induction n using Node.induction with
  | step n ih =>
    intro depth members h
    have hfields := forall₂_of_classifyMembers h
    refine .intro (fun entry hentry => ?_) fun entry hentry child hchild => ?_
    · obtain ⟨member, -, hname, hclassify⟩ := exists_mem_of_forall₂ hfields hentry
      rw [hname] at hclassify
      exact fieldStored_of_classify hclassify
    · obtain ⟨member, -, -, hclassify⟩ := exists_mem_of_forall₂ hfields hentry
      obtain ⟨-, hcontent⟩ := Field.classify_eq_ok_iff.1 hclassify
      obtain ⟨members', fields', rfl, hmembers', -⟩ := exists_members_of_classify hcontent hchild
      exact ih entry.1 entry.2 hentry _ hchild hmembers'

/-- The node of a record is well formed. -/
theorem Node.wellFormed_of_ofRecord {record : Json} {n : Node} (h : ofRecord record = .ok n) :
    n.WellFormed 0 := by
  cases record with
  | object members =>
    obtain ⟨fields, hfields, rfl⟩ := map_eq_ok_iff.1 h
    exact wellFormed_of_classifyMembers _ hfields
  | _ => simp [ofRecord] at h

/-! ### Nodes taken out of fields, and narrowed nodes -/

/-- A node may stand less deep. -/
theorem Node.WellFormed.mono {n : Node} {depth depth' : Nat} (h : n.WellFormed depth)
    (hle : depth' ≤ depth) : n.WellFormed depth' := by
  induction h generalizing depth' with
  | intro hfields _ ih =>
    refine .intro (fun entry hentry => ?_) fun entry hentry child hchild =>
      ih entry hentry child hchild (Nat.succ_le_succ hle)
    obtain ⟨hname, hsplit, henclosed, hstored⟩ := hfields entry hentry
    exact ⟨hname, hsplit, Nat.le_trans hle henclosed, hstored⟩

/-- In a well-formed node every field bears the name that it stands under, at every depth. -/
theorem Node.WellFormed.toNamed {n : Node} {depth : Nat} (h : n.WellFormed depth) : n.Named := by
  induction h with
  | intro hfields _ ih => exact .intro (fun entry hentry => (hfields entry hentry).named) ih

/-- What a field of a well-formed node holds is well formed. -/
theorem Node.WellFormed.of_related {n child : Node} {depth : Nat} {name : String}
    {field : Field} (h : n.WellFormed depth) (hget : n.get? name = some field)
    (hchild : child ∈ field.related) : child.WellFormed depth := by
  obtain ⟨-, hchildren⟩ := h
  exact (hchildren (name, field) (Entries.mem_of_get? hget) child hchild).mono
    (Nat.le_succ depth)

variable [PatternEngine] {selection : Selection} {clauses : List Clause}

/-- Narrowing changes no value. -/
theorem Content.isStored_of_narrow {content content' : Content}
    (h : content.narrow selection clauses = .ok content') (hstored : content.IsStored) :
    content'.IsStored := by
  rcases cases_of_narrow h with ⟨rfl, -⟩ | ⟨n, n', rfl, rfl, -⟩ | ⟨members, members', rfl, rfl, -⟩
  · exact hstored
  · trivial
  · trivial

/-- **A narrowed node is well formed.** -/
theorem Node.WellFormed.of_narrow {n n' : Node} {depth : Nat} (hn : n.WellFormed depth)
    (h : n.narrow selection clauses = .ok n') : n'.WellFormed depth := by
  have hnamed := hn.toNamed
  induction hn generalizing clauses n' with
  | @intro depth n hfields hchildren ih =>
    have hforall := hnamed.forall₂_of_narrow h
    refine .intro (fun entry' hentry' => ?_) fun entry' hentry' child' hchild' => ?_
    · obtain ⟨entry, hentry, hkey, hname, hcontent⟩ := exists_mem_of_forall₂ hforall hentry'
      obtain ⟨-, hsplit, henclosed, hstored⟩ := hfields entry hentry
      exact ⟨hname, hkey ▸ hsplit, henclosed, Content.isStored_of_narrow hcontent hstored⟩
    · obtain ⟨entry, hentry, -, -, hcontent⟩ := exists_mem_of_forall₂ hforall hentry'
      obtain ⟨child, hchild, hnarrow⟩ := Content.exists_of_narrow hcontent hchild'
      exact ih entry hentry child hchild hnarrow (hchildren entry hentry child hchild).toNamed

/-- **Every node that comes from a record is well formed.** -/
theorem Node.Built.wellFormed {n : Node} (h : n.Built) : n.WellFormed 0 := by
  induction h with
  | ofRecord _ h => exact wellFormed_of_ofRecord h
  | related _ hget hchild ih => exact ih.of_related hget hchild
  | narrow _ h ih => exact ih.of_narrow h

end RecordQuery
