/-
# Datasets are loaded from their own text

A dataset is written as the array of its records, and loading that text classifies the records
again.  Every node that comes from a record reads back as itself (`Node.WellFormed.reread`), so
all that can fail is reading the text.  Of the format in which it is written nothing is known
but that it reads back what it has written, as long as no more than 127 arrays and objects are
nested in one another (`Json.Format.ReadsBack`); so loading depends on the nesting of the array
alone (`Dataset.IsStored.ofText_toText`).

Classification and reading do not count the same thing.  Classification counts the members that
enclose another one, and arrays are free; reading counts every array and object that is open.
Since only objects are nested in arrays that are nested, reading counts at most twice as much
(`Json.nesting_le_of_fits`), so a dataset is loaded again if at most 62 members lead to any part
of it (`Dataset.IsStored.ofText_toText_of_levels`).  Beyond that it may be accepted and still be
too deep for its own text.
-/

import RecordQuery.Proofs.Lossless
import RecordQuery.Proofs.Meaning
import RecordQuery.Proofs.Nesting
import RecordQuery.Proofs.Rereading

namespace RecordQuery

/-! ### The two measures -/

namespace Json

/-- Nothing is nested in a leaf. -/
theorem nesting_of_isLeaf {value : Json} (h : value.isLeaf) : value.nesting = 0 := by
  cases value with
  | array items => cases h
  | object members => cases h
  | _ => rfl

/-- Items are nested as deep as the deepest one. -/
theorem nestingOfItems_le {items : List Json} {bound : Nat}
    (h : ∀ item ∈ items, item.nesting ≤ bound) : nestingOfItems items ≤ bound := by
  induction items with
  | nil => exact Nat.zero_le _
  | cons item items ih =>
    obtain ⟨hitem, hitems⟩ := List.forall_mem_cons.1 h
    exact Nat.max_le.2 ⟨hitem, ih hitems⟩

/-- So are the members of an object. -/
theorem nestingOfMembers_le {members : List (String × Json)} {bound : Nat}
    (h : ∀ member ∈ members, member.2.nesting ≤ bound) : nestingOfMembers members ≤ bound := by
  induction members with
  | nil => exact Nat.zero_le _
  | cons member members ih =>
    obtain ⟨hmember, hmembers⟩ := List.forall_mem_cons.1 h
    exact Nat.max_le.2 ⟨hmember, ih hmembers⟩

/-- **Reading counts at most twice the members,** and one more for an array around objects. -/
theorem nesting_le_of_fits {value : Json} {level : Nat} (h : value.Fits level) {levels : Nat}
    (hlevels : ∀ below part, value.Part below part → below ≤ levels) :
    value.nesting ≤ 2 * levels + (if value.isObject then 1 else 2) := by
  induction value using Json.induction generalizing level levels with
  | leaf value hleaf =>
    rw [nesting_of_isLeaf hleaf]
    exact Nat.zero_le _
  | array items ih =>
    obtain ⟨hkinds, hfits⟩ := fits_array_iff.1 h
    have hitem : ∀ item ∈ items, item.nesting ≤ 2 * levels + 1 := fun item hmem => by
      rcases hkinds with hobjects | hleaves
      · have hnesting := ih item hmem (hfits item hmem) fun below part hpart =>
          hlevels below part (.item hmem hpart)
        rwa [if_pos (hobjects item hmem)] at hnesting
      · rw [nesting_of_isLeaf (hleaves item hmem)]
        exact Nat.zero_le _
    have hitems := nestingOfItems_le hitem
    rw [nesting]
    simp only [isObject, Bool.false_eq_true, if_false]
    omega
  | object members ih =>
    have hfits := fits_object_iff.1 h
    have hmember : ∀ member ∈ members, member.2.nesting ≤ 2 * levels := fun member hmem => by
      have hpositive := hlevels 1 member.2 (.member hmem (.self _))
      have hfewer : ∀ below part, member.2.Part below part → below ≤ levels - 1 :=
        fun below part hpart => by
          have hbelow := hlevels (below + 1) part (.member hmem hpart)
          omega
      have hnesting := ih member hmem (hfits member hmem).2 hfewer
      split at hnesting <;> omega
    have hmembers := nestingOfMembers_le hmember
    rw [nesting]
    simp only [isObject, if_true]
    omega

end Json

/-! ### Formats that read what they write -/

namespace Json

/-- A format that gives back the values it has written, up to 127 arrays and objects nested in
one another, and refuses what is nested deeper.  The values are those in which no object has a
name twice. -/
def Format.ReadsBack (format : Format) : Prop :=
  ∀ value : Json, value.Distinct →
    format.read? (format.write value) = if value.nesting ≤ maxNesting then some value else none

/-- **The standard format reads back what it writes.** -/
theorem standard_readsBack : standard.ReadsBack := fun _ hvalue => ofText?_text hvalue

end Json

namespace Dataset

/-! ### Loading -/

variable {d : Dataset}

/-- A dataset whose nodes are as records have them. -/
def IsStored (d : Dataset) : Prop := ∀ n ∈ d.nodes, n.Distinct ∧ n.WellFormed 0

/-- All that operations lead to is so, from whatever patterns it was selected by. -/
theorem Built.isStored [PatternEngine] (h : d.Built) : d.IsStored := fun n hn =>
  ⟨(h n hn).indexed.distinct, (h n hn).wellFormed⟩

/-- The records of a value in which no object has a name twice have no name twice. -/
theorem distinct_of_recordsOf? {value : Json} {records : List Json} (hvalue : value.Distinct)
    (h : recordsOf? value = some records) : ∀ record ∈ records, record.Distinct := by
  cases hvalue with
  | array hitems =>
    cases h
    exact hitems
  | object hnames hmembers =>
    cases h
    exact List.forall_mem_singleton.2 (.object hnames hmembers)
  | _ => cases h

/-- A dataset is stored if a list of records was classified as it. -/
theorem isStored_of_ofRecords {records : List Json}
    (hrecords : ∀ record ∈ records, record.Distinct) (h : ofRecords records = .ok d) :
    d.IsStored := fun n hn => by
  obtain ⟨-, hnodes⟩ := ofRecords_eq_ok_iff.1 h
  obtain ⟨record, hrecord, hnode⟩ := exists_mem_of_forall₂ hnodes hn
  exact ⟨Node.distinct_of_ofRecord (hrecords record hrecord) hnode,
    Node.wellFormed_of_ofRecord hnode⟩

namespace IsStored

/-- No object that a dataset is written with has a name twice. -/
theorem distinct_toJson (h : d.IsStored) : d.toJson.Distinct := by
  refine .array fun record hrecord => ?_
  rw [nodesToJson_eq_map] at hrecord
  obtain ⟨n, hn, rfl⟩ := List.mem_map.1 hrecord
  obtain ⟨hdistinct, -⟩ := h n hn
  exact hdistinct.toJson

/-- The records of a dataset are classified as its nodes. -/
theorem ofJson_toJson (h : d.IsStored) : Dataset.ofJson d.toJson = .ok (ofNodes d.nodes) := by
  show Dataset.ofRecords (nodesToJson d.nodes) = _
  rw [ofRecords_eq_ok_iff, nodesToJson_eq_map, List.forall₂_map_left_iff, ofNodes,
    List.forall₂_same]
  exact ⟨rfl, fun n hn => (h n hn).2.reread⟩

/-- So they are no deeper than classification allows. -/
theorem fits_toJson (h : d.IsStored) : d.toJson.Fits 0 := by
  obtain ⟨records, hrecords, hgrammar⟩ :=
    (decides_ofJson d.toJson).exists_ok_iff.1 ⟨_, h.ofJson_toJson⟩
  obtain rfl : nodesToJson d.nodes = records := Option.some.inj hrecords
  exact Json.fits_array_iff.2
    ⟨.inl fun record hrecord => (hgrammar record hrecord).1,
      fun record hrecord => (hgrammar record hrecord).2⟩

/-- A dataset is equal to itself, since its numbers have values. -/
theorem same_self (h : d.IsStored) : d.same d := by
  have hindexed : ∀ n ∈ d.nodes, n.Indexed := fun n hn => ⟨(h n hn).2.toNamed, (h n hn).1⟩
  rw [same, sameNodes_eq_isEqv]
  exact (isEqv_iff_map_eq fun n hn m hm =>
    (hindexed n hn).same_iff_meaning_eq (hindexed m hm) (h n hn).2).2 rfl

variable [format : Json.Format]

/-- **Loading the text of a dataset** depends on its nesting alone. -/
theorem ofText_toText (hformat : format.ReadsBack) (h : d.IsStored) : ofText d.toText =
    if d.toJson.nesting ≤ Json.maxNesting then .ok (ofNodes d.nodes) else .error .invalidJson := by
  rw [Dataset.ofText, toText, hformat d.toJson h.distinct_toJson]
  by_cases hnesting : d.toJson.nesting ≤ Json.maxNesting
  · rw [if_pos hnesting, if_pos hnesting]
    exact h.ofJson_toJson
  · rw [if_neg hnesting, if_neg hnesting]

/-- **Few members are always loaded again:** at most 62 that lead to any part. -/
theorem ofText_toText_of_levels (hformat : format.ReadsBack) (h : d.IsStored)
    (hlevels : ∀ level part, d.toJson.Part level part → level ≤ 62) :
    ofText d.toText = .ok (ofNodes d.nodes) := by
  have hnesting : d.toJson.nesting ≤ 2 * 62 + 2 := Json.nesting_le_of_fits h.fits_toJson hlevels
  have hbound : d.toJson.nesting ≤ Json.maxNesting := Nat.le_trans hnesting (by decide)
  rw [h.ofText_toText hformat, if_pos hbound]

end IsStored

/-- **A dataset is loaded from its own text** exactly if at most 127 arrays and objects are
nested in the text, whatever the format, as long as it reads back what it writes.  Let a dataset
be made of a value or of a list of records, in which no object has a name twice.

* Loading its text gives that very dataset if the text is nested no deeper than that.
* Otherwise the text is refused as no JSON.
* The dataset is equal to itself, so what is loaded is equal to it. -/
theorem ofText_toJson_text [format : Json.Format] (hformat : format.ReadsBack)
    (h : (∃ value : Json, value.Distinct ∧ ofJson value = .ok d) ∨
      ∃ records : List Json, (∀ record ∈ records, record.Distinct) ∧ ofRecords records = .ok d) :
    (ofText d.toText = .ok d ↔ d.toJson.nesting ≤ 127) ∧
      (ofText d.toText = .error .invalidJson ↔ 127 < d.toJson.nesting) ∧
        d.same d := by
  -- A value that is one record makes the dataset of this record.
  have hrecords : ∃ records : List Json,
      (∀ record ∈ records, record.Distinct) ∧ ofRecords records = .ok d := by
    obtain ⟨value, hvalue, hd⟩ | hrecords := h
    · obtain ⟨records, hread, hd⟩ := ofJson_eq_ok_iff.1 hd
      exact ⟨records, distinct_of_recordsOf? hvalue hread, hd⟩
    · exact hrecords
  obtain ⟨records, hrecords, hd⟩ := hrecords
  have hstored := isStored_of_ofRecords hrecords hd
  have hnodes : ofNodes d.nodes = d := by
    obtain ⟨hcascade, -⟩ := ofRecords_eq_ok_iff.1 hd
    rw [ofNodes, ← hcascade]
  rw [hstored.ofText_toText hformat, hnodes, Json.maxNesting]
  by_cases hnesting : d.toJson.nesting ≤ 127
  · simp [hnesting, hstored.same_self]
  · simp [hnesting, hstored.same_self, Nat.lt_of_not_le hnesting]

/-! ### Records nested in one another -/

/-- No record has a name twice if each holds one more. -/
theorem distinct_nested (levels : Nat) : (Node.nested levels).Distinct := by
  induction levels with
  | zero => exact Json.distinct_object_nil
  | succ levels ih =>
    exact .object (List.nodup_singleton _) (List.forall_mem_singleton.2 ih)

/-- The inmost record is empty and counts too. -/
theorem nesting_nested (levels : Nat) : (Node.nested levels).nesting = levels + 1 := by
  induction levels with
  | zero => rfl
  | succ levels ih =>
    rw [Node.nested, Json.nesting, Json.nestingOfMembers, ih, Json.nestingOfMembers, Nat.max_zero]

/-- A dataset is written with one array around its records. -/
theorem nesting_toJson_nested {levels : Nat} (h : ofRecords [Node.nested levels] = .ok d) :
    d.toJson.nesting = levels + 2 := by
  have hrecords := nodesToJson_eq_of_ofRecords h
  rw [toJson, hrecords, Json.nesting, Json.nestingOfItems, nesting_nested, Json.nestingOfItems,
    Nat.max_zero]

/-- A dataset of 126 records nested in one another is loaded from its own text, which has one
array around them.  The text is written and read in the standard format. -/
theorem ofText_toJson_text_nested : ∃ d, ofRecords [Node.nested 125] = .ok d ∧
    ofText d.toText = .ok d := by
  have haccepted : (ofRecords [Node.nested 125]).isOk := by decide +kernel
  obtain ⟨d, hd⟩ := isOk_iff.1 haccepted
  have hnesting : d.toJson.nesting ≤ 127 := Nat.le_of_eq (nesting_toJson_nested hd)
  exact ⟨d, hd, (ofText_toJson_text Json.standard_readsBack (.inr
    ⟨_, List.forall_mem_singleton.2 (distinct_nested 125), hd⟩)).1.2 hnesting⟩

/-- **One record more is accepted and not loaded again:** it is no deeper than classification
allows, and too deep for its own text.  So it is in the standard format, and in any other that
reads back what it writes. -/
theorem ofText_text_tooDeep : (Node.nested 126).Distinct ∧
    ∃ d, ofRecords [Node.nested 126] = .ok d ∧ ofText d.toText = .error .invalidJson ∧
      ∀ [format : Json.Format], format.ReadsBack → ofText d.toText = .error .invalidJson := by
  have haccepted : (ofRecords [Node.nested 126]).isOk := by decide +kernel
  obtain ⟨d, hd⟩ := isOk_iff.1 haccepted
  have hstored : d.IsStored :=
    isStored_of_ofRecords (List.forall_mem_singleton.2 (distinct_nested 126)) hd
  have hnesting : ¬d.toJson.nesting ≤ Json.maxNesting := by
    rw [nesting_toJson_nested hd]
    decide
  have hrefused {format : Json.Format} (hformat : format.ReadsBack) :
      ofText d.toText = .error .invalidJson := by
    rw [hstored.ofText_toText hformat, if_neg hnesting]
  exact ⟨distinct_nested 126, d, hd, hrefused Json.standard_readsBack, hrefused⟩

end Dataset
end RecordQuery
