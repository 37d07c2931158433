/-
# Which records are accepted

Classifying a record goes down through its members, counts how deep it is and stops at the
first fault.  What it accepts is the grammar of records: classification decides it
(`Decides`).  Where it holds, the result has the shapes that `Json.Classified` states; where it
does not, the record is refused as malformed.  One induction over values shows both
(`decides_classify`).
-/

import RecordQuery.Proofs.Grammar

namespace RecordQuery

/-! ### Classification decides the grammar -/

/-- An array of scalars asks for nothing but leaves. -/
theorem decides_scalarItems (name : String) (items : List Json) :
    Decides (∀ item ∈ items, item.isLeaf)
      (List.Forall₂ (fun item s => Scalar.ofJson? item = some s) items)
        (scalarItems name items) := by
  rw [scalarItems_eq_mapM]
  refine .mapM fun item _ => ?_
  cases hs : Scalar.ofJson? item with
  | some s => exact .accepted (Json.isLeaf_iff.2 ⟨s, hs⟩) rfl
  | none =>
    have hother : ¬item.isLeaf := fun hleaf => by
      obtain ⟨s, hs'⟩ := Json.isLeaf_iff.1 hleaf
      rw [hs] at hs'
      cases hs'
    exact .refused hother

/-- **A field is refused for its name or for its depth,** and otherwise decided by its
value. -/
theorem decides_classify_of_fits {level : Nat} {name : String} {value : Json}
    (h : Segments.isSplit name = false → level ≤ maxDepth →
      Decides (value.Fits (level + 1)) value.Classified (Content.classify level name value)) :
    Decides ((¬['_', '_'] <:+: name.toList ∧ level ≤ maxDepth) ∧ value.Fits (level + 1))
      value.Classified (Content.classify level name value) := by
  rw [← Segments.isSplit_eq_false_iff]
  cases hname : Segments.isSplit name with
  | true =>
    rw [Content.classify_of_isSplit hname]
    exact .refused fun haccepts => Bool.noConfusion haccepts.1.1
  | false =>
    by_cases hlevel : level ≤ maxDepth
    · exact (h hname hlevel).congr (by simp [hlevel])
    · rw [Content.classify_of_tooDeep hname (Nat.lt_of_not_le hlevel)]
      exact .refused fun haccepts => hlevel haccepts.1.2

/-- An array is read as records if it may hold nothing but objects, and else as scalars. -/
theorem decides_classify_array {level : Nat} {name : String} {items : List Json}
    (hname : Segments.isSplit name = false) (hlevel : level ≤ maxDepth)
    (ih : ∀ item ∈ items, Decides (item.isObject ∧ item.Fits (level + 1))
      (fun n => item.Classified (.node n)) (classifyRecord (level + 1) item)) :
    Decides ((Json.array items).Fits (level + 1)) (Json.array items).Classified
      (Content.classify level name (.array items)) := by
  rw [Json.fits_array_iff]
  cases hitems : items.all Json.isObject with
  | true =>
    have hobjects : ∀ item ∈ items, item.isObject := List.all_eq_true.1 hitems
    rw [Content.classify_records hname hlevel hitems, classifyRecords_eq_mapM]
    refine ((Decides.mapM ih).map Content.dataset fun _ hnodes => .dataset hnodes).congr ?_
    rw [and_iff_right (.inl hobjects)]
    exact forall₂_congr fun item hitem => and_iff_right (hobjects item hitem)
  | false =>
    obtain ⟨item, hitem, hother⟩ := List.all_eq_false.1 hitems
    have hsome : items ≠ [] := List.ne_nil_of_mem hitem
    have hmixed : ¬∀ item ∈ items, item.isObject := fun hobjects => hother (hobjects item hitem)
    rw [Content.classify_items hname hlevel hitems, or_iff_right hmixed]
    refine ((decides_scalarItems name items).map Content.array fun _ hs => .array hsome hs).congr ?_
    exact ⟨fun hleaves => ⟨hleaves, fun item hitem => Json.fits_of_isLeaf (hleaves item hitem)⟩,
      fun haccepts => haccepts.1⟩

/-- The members of an object are taken one by one, each under its own name. -/
theorem decides_classifyMembers {level : Nat} {members : List (String × Json)}
    (ih : ∀ member ∈ members, Decides
      ((¬['_', '_'] <:+: member.1.toList ∧ level ≤ maxDepth) ∧ member.2.Fits (level + 1))
        member.2.Classified (Content.classify level member.1 member.2)) :
    Decides ((Json.object members).Fits level)
      (List.Forall₂ (fun member entry => (entry.1 = member.1 ∧ entry.2.name = member.1) ∧
        member.2.Classified entry.2.content) members) (classifyMembers level members) := by
  rw [classifyMembers_eq_mapM, Json.fits_object_iff]
  refine .mapM fun member hmember => ?_
  have hfield : Decides ((¬['_', '_'] <:+: member.1.toList ∧ level ≤ maxDepth) ∧
      member.2.Fits (level + 1))
      (fun field => field.name = member.1 ∧ member.2.Classified field.content)
        (Field.classify level member.1 member.2) :=
    (ih member hmember).map (Field.mk member.1) fun _ hcontent => ⟨rfl, hcontent⟩
  exact hfield.map (member.1, ·) fun _ ⟨hname, hcontent⟩ => ⟨⟨rfl, hname⟩, hcontent⟩

/-- **Classification decides the grammar,** of a value as what a field holds and as a record.
The induction is on the value, with a level of its own for every part. -/
theorem decides_classify (value : Json) :
    (∀ level name, Decides
      ((¬['_', '_'] <:+: name.toList ∧ level ≤ maxDepth) ∧ value.Fits (level + 1))
        value.Classified (Content.classify level name value)) ∧
    ∀ level, Decides (value.isObject ∧ value.Fits level) (fun n => value.Classified (.node n))
      (classifyRecord level value) := by
  induction value using Json.induction with
  | leaf value hleaf =>
    refine ⟨fun level name => decides_classify_of_fits fun hname hlevel => ?_, fun level => ?_⟩
    · obtain ⟨s, hs⟩ := Json.isLeaf_iff.1 hleaf
      rw [Content.classify_leaf hname hlevel hs]
      exact .accepted (Json.fits_of_isLeaf hleaf) (.scalar hs)
    · cases value with
      | object members => cases hleaf
      | _ => exact .refused fun haccepts => Bool.noConfusion haccepts.1
  | array items ih =>
    refine ⟨fun level name => decides_classify_of_fits fun hname hlevel => ?_, fun level => ?_⟩
    · exact decides_classify_array hname hlevel fun item hitem => (ih item hitem).2 (level + 1)
    · exact .refused fun haccepts => Bool.noConfusion haccepts.1
  | object members ih =>
    have hmembers (level : Nat) := decides_classifyMembers fun member hmember =>
      (ih member hmember).1 level member.1
    have hnode : ∀ fields : List (String × Field), List.Forall₂ (fun member entry =>
        (entry.1 = member.1 ∧ entry.2.name = member.1) ∧ member.2.Classified entry.2.content)
          members fields → (Json.object members).Classified (.node (.ofFields fields)) :=
      fun fields hfields => Json.classified_object_iff.2 ⟨fields, rfl, hfields⟩
    refine ⟨fun level name => decides_classify_of_fits fun hname hlevel => ?_, fun level => ?_⟩
    · rw [Content.classify_object hname hlevel]
      exact (hmembers (level + 1)).map _ hnode
    · have hobject : (Json.object members).isObject := rfl
      rw [and_iff_right hobject]
      exact (hmembers level).map _ hnode

/-! ### Records and datasets -/

/-- A record of a list is classified as it is by itself. -/
theorem classifyRecord_zero_eq_ok_iff {record : Json} {n : Node} :
    classifyRecord 0 record = .ok n ↔ Node.ofRecord record = .ok n := by
  cases record with
  | object members => rfl
  | _ => exact iff_of_false nofun nofun

/-- Classifying a record decides whether it is one. -/
theorem Node.decides_ofRecord (record : Json) :
    Decides record.IsRecord (fun n => record.Classified (.node n)) (ofRecord record) := by
  cases record with
  | object members => exact (decides_classify (.object members)).2 0
  | _ => exact .refused fun hrecord => Bool.noConfusion hrecord.1

namespace Dataset

/-- The records in a value that is read as a dataset. -/
def recordsOf? : Json → Option (List Json)
  | .object members => some [.object members]
  | .array records => some records
  | _ => none

/-- A dataset of records holds their nodes. -/
theorem ofRecords_eq_ok_iff {records : List Json} {d : Dataset} : ofRecords records = .ok d ↔
    d.cascade = false ∧
      List.Forall₂ (fun record n => Node.ofRecord record = .ok n) records d.nodes := by
  have hnodes (nodes : List Node) : classifyRecords 0 records = .ok nodes ↔
      List.Forall₂ (fun record n => Node.ofRecord record = .ok n) records nodes := by
    simp only [classifyRecords_eq_mapM, mapM_eq_ok_iff, classifyRecord_zero_eq_ok_iff]
  rw [ofRecords, map_eq_ok_iff]
  constructor
  · rintro ⟨nodes, h, rfl⟩
    exact ⟨rfl, (hnodes nodes).1 h⟩
  · obtain ⟨nodes, cascade⟩ := d
    rintro ⟨rfl, h⟩
    exact ⟨nodes, (hnodes nodes).2 h, rfl⟩

/-- Classifying a list of records decides whether all of them are. -/
theorem decides_ofRecords (records : List Json) :
    Decides (∀ record ∈ records, record.IsRecord)
      (fun d => List.Forall₂ (fun record n => record.Classified (.node n)) records d.nodes)
        (ofRecords records) := by
  rw [ofRecords, classifyRecords_eq_mapM]
  exact (Decides.mapM fun record _ => (decides_classify record).2 0).map ofNodes fun _ h => h

/-- A value is read as the records in it. -/
theorem ofJson_eq_ofRecords {value : Json} {records : List Json}
    (h : recordsOf? value = some records) : ofJson value = ofRecords records := by
  cases value with
  | object members =>
    obtain rfl := Option.some.inj h
    rw [ofJson, ofRecords, classifyRecords]
    cases classifyMembers 0 members <;> rfl
  | array items => exact congrArg ofRecords (Option.some.inj h)
  | _ => cases h

/-- A leaf is not read as a dataset. -/
theorem ofJson_eq_error {value : Json} (h : recordsOf? value = none) :
    ofJson value = .error (.malformedRecord (.notADataset value.type)) := by
  cases value with
  | object members => cases h
  | array items => cases h
  | _ => rfl

/-- So a dataset is read from a value exactly if it is made of the records in it. -/
theorem ofJson_eq_ok_iff {value : Json} {d : Dataset} : ofJson value = .ok d ↔
    ∃ records, recordsOf? value = some records ∧ ofRecords records = .ok d := by
  cases hrecords : recordsOf? value with
  | none => simp [ofJson_eq_error hrecords]
  | some records => simp [ofJson_eq_ofRecords hrecords]

/-- Reading a value decides whether it is made of records. -/
theorem decides_ofJson (value : Json) :
    Decides (∃ records, recordsOf? value = some records ∧ ∀ record ∈ records, record.IsRecord)
      (fun d => ∃ records, recordsOf? value = some records ∧
        List.Forall₂ (fun record n => record.Classified (.node n)) records d.nodes)
          (ofJson value) := by
  cases hrecords : recordsOf? value with
  | none =>
    rw [ofJson_eq_error hrecords]
    exact .refused (by simp)
  | some records =>
    rw [ofJson_eq_ofRecords hrecords]
    simpa using decides_ofRecords records

end Dataset

namespace Node

/-- **Exactly the records of the grammar are accepted,** whatever is nested in them.

* A node is made of a record if and only if the record is an object of which every part
  fits.  Otherwise the record is refused as malformed.  The node is the one that the record
  is classified as, and no other.
* A dataset is made of a list of records if and only if all of them are accepted.  It holds
  their nodes in order and does not cascade.  Otherwise the list is refused as malformed.
* A value is read as a dataset if it is one record or an array of records, and then the
  same holds of these. -/
theorem ofRecord_grammar (record value : Json) (records : List Json) :
    (((∃ n, ofRecord record = .ok n) ↔ record.IsRecord) ∧
      ((∃ fault, ofRecord record = .error (.malformedRecord fault)) ↔ ¬record.IsRecord) ∧
      ∀ n, ofRecord record = .ok n ↔ record.IsRecord ∧ record.Classified (.node n)) ∧
    (((∃ d, Dataset.ofRecords records = .ok d) ↔ ∀ record ∈ records, record.IsRecord) ∧
      ((∃ fault, Dataset.ofRecords records = .error (.malformedRecord fault)) ↔
        ¬∀ record ∈ records, record.IsRecord) ∧
      ∀ d, Dataset.ofRecords records = .ok d ↔ d.cascade = false ∧
        List.Forall₂ (fun record n => ofRecord record = .ok n) records d.nodes) ∧
    ((∃ d, Dataset.ofJson value = .ok d) ↔ ∃ records,
        Dataset.recordsOf? value = some records ∧ ∀ record ∈ records, record.IsRecord) ∧
      ((∃ fault, Dataset.ofJson value = .error (.malformedRecord fault)) ↔ ¬∃ records,
        Dataset.recordsOf? value = some records ∧ ∀ record ∈ records, record.IsRecord) ∧
      ∀ d, Dataset.ofJson value = .ok d ↔ ∃ records,
        Dataset.recordsOf? value = some records ∧ Dataset.ofRecords records = .ok d := by
  have hrecord := decides_ofRecord record
  have hrecords := Dataset.decides_ofRecords records
  have hvalue := Dataset.decides_ofJson value
  refine ⟨⟨hrecord.exists_ok_iff, hrecord.exists_error_iff, fun n => ?_⟩,
    ⟨hrecords.exists_ok_iff, hrecords.exists_error_iff, fun _ => Dataset.ofRecords_eq_ok_iff⟩,
    hvalue.exists_ok_iff, hvalue.exists_error_iff, fun _ => Dataset.ofJson_eq_ok_iff⟩
  exact hrecord.eq_ok_iff fun _ _ h h' => Content.node.inj (h.unique h')

/-- Records nested in one another. -/
def nested : Nat → Json
  | 0 => .object []
  | depth + 1 => .object [("inner", nested depth)]

/-- The innermost of 129 members is enclosed by 128 others, and the record is accepted.  The
innermost of 130 is enclosed by one too many. -/
theorem ofRecord_grammar_nested : (nested 129).IsRecord ∧ ¬(nested 130).IsRecord := by
  have hbelow : (ofRecord (nested 129)).isOk := by decide +kernel
  have habove : ¬(ofRecord (nested 130)).isOk := by decide +kernel
  rw [isOk_iff] at hbelow habove
  have hgrammar (record : Json) := (ofRecord_grammar record .null []).1.1
  exact ⟨(hgrammar _).1 hbelow, mt (hgrammar _).2 habove⟩

end Node
end RecordQuery
