/-
# Nothing of a record is lost

A record is written out of the node that was made of it exactly as it was: the same names
in the same order at every level, the same strings and booleans, the same items, and every
number of the same kind and the same value.  Equality of JSON values says all of this,
since a number is either an integer or the bits of a finite float, and never both.

What might be lost is what classification decides.  An empty array becomes a dataset
without nodes and not an array without scalars, and both are written as an empty array.
An integer is stored as signed or as unsigned, and the storage is read off its value, so
no integer becomes a float and no float an integer, however it looks.

The argument goes over the value that is classified (`Json.Classified.toJson_eq`), and
every way to make something of a record is a special case of it (`Node.toJson_ofRecord`).
The other way around, nodes read back as themselves, is `Node.ofRecord_toJson`.
-/

import RecordQuery.Proofs.RecordGrammar

namespace RecordQuery

/-! ### Numbers and scalars -/

/-- **A number keeps its kind and its value,** whichever way it is stored. -/
theorem JsonNumber.ofNumber?_toNumber (n : JsonNumber) : ofNumber? n.toNumber = some n := by
  cases n with
  | int n fits =>
    by_cases hsigned : n < 2 ^ 63
    · have hn : (Int64.ofInt n).toInt = n := Int64.toInt_ofInt_of_le fits.1 hsigned
      rw [toNumber, if_pos hsigned]
      simp only [ofNumber?, hn]
    · have hsmall : n.toNat < 2 ^ 64 := by omega
      have hn : ((UInt64.ofNat n.toNat).toNat : Int) = n := by
        rw [UInt64.toNat_ofNat_of_lt' hsmall]
        omega
      rw [toNumber, if_neg hsigned]
      simp only [ofNumber?, hn]
  | float x finite => exact dif_pos finite

/-- A scalar is written as the leaf that it was read from. -/
theorem Scalar.toJson_eq_of_ofJson? {value : Json} {s : Scalar} (h : ofJson? value = some s) :
    s.toJson = value := by
  cases value with
  | number n =>
    obtain rfl := Option.some.inj h
    rw [toJson, JsonNumber.ofNumber?_toNumber]
    rfl
  | array items => cases h
  | object members => cases h
  | _ =>
    obtain rfl := Option.some.inj h
    rfl

/-! ### Values -/

/-- **What a value is classified as is written as that value.** -/
theorem Json.Classified.toJson_eq {value : Json} {content : Content}
    (h : value.Classified content) : content.toJson = value := by
  induction value using Json.induction generalizing content with
  | leaf value hleaf =>
    cases h with
    | scalar hs => exact Scalar.toJson_eq_of_ofJson? hs
    | _ => cases hleaf
  | array items ih =>
    cases h with
    | scalar hs => cases hs
    | array _ hscalars =>
      have hitems := map_eq_of_forall₂ (fun _ _ _ hs => Scalar.toJson_eq_of_ofJson? hs) hscalars
      rw [Content.toJson, hitems]
    | @dataset _ nodes hnodes =>
      have hnode : ∀ item ∈ items, ∀ n : Node, item.Classified (.node n) → n.toJson = item :=
        fun item hitem _ hn => ih item hitem hn
      rw [Content.toJson, nodesToJson_eq_map, map_eq_of_forall₂ hnode hnodes]
  | object members ih =>
    obtain ⟨fields, rfl, hfields⟩ := Json.classified_object_iff.1 h
    have hentry : ∀ member ∈ members, ∀ entry : String × Field,
        ((entry.1 = member.1 ∧ entry.2.name = member.1) ∧ Classified member.2 entry.2.content) →
          (entry.1, entry.2.toJson) = member := by
      rintro member hmember entry ⟨⟨hname, -⟩, hcontent⟩
      exact Prod.ext hname (ih member hmember hcontent)
    rw [Content.toJson, Node.toJson, fieldsToJson_eq_map, map_eq_of_forall₂ hentry hfields]

/-! ### Records, fields and datasets -/

/-- A node is written as the record that it was made of. -/
theorem Node.toJson_eq_of_ofRecord {record : Json} {n : Node} (h : ofRecord record = .ok n) :
    n.toJson = record :=
  ((decides_ofRecord record).describes_of_ok h).toJson_eq

/-- Different records become different nodes. -/
theorem Node.ofRecord_injective {record record' : Json} {n : Node} (h : ofRecord record = .ok n)
    (h' : ofRecord record' = .ok n) : record = record' :=
  (toJson_eq_of_ofRecord h).symm.trans (toJson_eq_of_ofRecord h')

/-- So are the nodes of a dataset. -/
theorem Dataset.nodesToJson_eq_of_ofRecords {records : List Json} {d : Dataset}
    (h : ofRecords records = .ok d) : nodesToJson d.nodes = records := by
  obtain ⟨-, hnodes⟩ := ofRecords_eq_ok_iff.1 h
  rw [nodesToJson_eq_map]
  exact map_eq_of_forall₂ (fun _ _ _ hn => Node.toJson_eq_of_ofRecord hn) hnodes

namespace Node

/-- **Classification loses nothing.**  Whatever is accepted is written as it was: the same
names in the same order, the same items, the same strings, booleans and nulls, and numbers
of the same kind and value, at every depth.

* The node of a record is written as that record.
* A field bears the name it was made with and is written as the value it was made of.
* The nodes of a dataset are written as its records, in order, and the dataset as the array
  of these.
* The dataset of an array is written as that array, and the dataset of one record as the
  array of that record. -/
theorem toJson_ofRecord :
    (∀ record n, ofRecord record = .ok n → n.toJson = record) ∧
    (∀ name value field, Field.ofJson name value = .ok field →
      field.name = name ∧ field.toJson = value) ∧
    (∀ records d, Dataset.ofRecords records = .ok d →
      nodesToJson d.nodes = records ∧ d.toJson = .array records) ∧
    ∀ value d, Dataset.ofJson value = .ok d →
      ∃ records, Dataset.recordsOf? value = some records ∧ d.toJson = .array records := by
  refine ⟨fun _ _ => toJson_eq_of_ofRecord, fun name value field h => ?_, fun records d h => ?_,
    fun value d h => ?_⟩
  · obtain ⟨hname, hcontent⟩ := Field.classify_eq_ok_iff.1 h
    exact ⟨hname, (((decides_classify value).1 0 name).describes_of_ok hcontent).toJson_eq⟩
  · have hrecords := Dataset.nodesToJson_eq_of_ofRecords h
    exact ⟨hrecords, congrArg Json.array hrecords⟩
  · obtain ⟨records, hvalue, hd⟩ := Dataset.ofJson_eq_ok_iff.1 h
    exact ⟨records, hvalue, congrArg Json.array (Dataset.nodesToJson_eq_of_ofRecords hd)⟩

/-- A record of everything that might be lost: an empty array and an empty record, an array
with a float that looks like an integer and with negative zero, and the integers at the ends
of what can be stored. -/
def sample : Json :=
  .object [("least", .number (.int (-2 ^ 63) (by decide))),
    ("largest", .number (.int (2 ^ 64 - 1) (by decide))),
    ("floats", .array [.number (.float ⟨0x4008000000000000⟩ (by decide)),
      .number (.float ⟨0x8000000000000000⟩ (by decide)), .null, .bool true, .string ""]),
    ("none", .array []), ("empty", .object []), ("records", .array [.object [], .object []])]

/-- Each of the four hypotheses is satisfiable, by one record. -/
theorem toJson_ofRecord_sample :
    (∃ n, ofRecord sample = .ok n ∧ n.toJson = sample) ∧
    (∃ field, Field.ofJson "sample" sample = .ok field ∧
      field.name = "sample" ∧ field.toJson = sample) ∧
    (∃ d, Dataset.ofRecords [sample, sample] = .ok d ∧ d.toJson = .array [sample, sample]) ∧
    ∃ d, Dataset.ofJson sample = .ok d ∧ d.toJson = .array [sample] := by
  have hrecord : (ofRecord sample).isOk := by decide +kernel
  have hfield : (Field.ofJson "sample" sample).isOk := by decide +kernel
  have hrecords : (Dataset.ofRecords [sample, sample]).isOk := by decide +kernel
  have hvalue : (Dataset.ofJson sample).isOk := by decide +kernel
  rw [isOk_iff] at hrecord hfield hrecords hvalue
  obtain ⟨n, hn⟩ := hrecord
  obtain ⟨field, hfield⟩ := hfield
  obtain ⟨d, hd⟩ := hrecords
  obtain ⟨e, he⟩ := hvalue
  obtain ⟨hrecord, hwritten, hrecords, hvalue⟩ := toJson_ofRecord
  obtain ⟨records, hsome, hjson⟩ := hvalue sample e he
  obtain rfl := Option.some.inj hsome
  exact ⟨⟨n, hn, hrecord sample n hn⟩, ⟨field, hfield, hwritten "sample" sample field hfield⟩,
    ⟨d, hd, (hrecords _ d hd).2⟩, ⟨e, he, hjson⟩⟩

end Node
end RecordQuery
