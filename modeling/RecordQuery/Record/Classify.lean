/-
# Classifying records

A raw JSON object becomes a node: each of its members becomes a field, and what
the field holds is decided once, by the value.

| value | field |
| --- | --- |
| null, boolean, number, string | scalar |
| array of leaves | array of scalars |
| object | nested node |
| array of objects, or empty array | dataset |

All other arrays are refused, and so are names that hold the separator of
segments and members enclosed by more than `maxDepth` others.  Members are taken
in order and the first fault is reported.
-/

import RecordQuery.Record.Basic

namespace RecordQuery

/-- The items of an array of scalars. -/
def scalarItems (name : String) : List Json → Except LookupError (List Scalar)
  | [] => .ok []
  | item :: items =>
    match Scalar.ofJson? item with
    | none => .error (.malformedRecord (.mixedArray name))
    | some s => (scalarItems name items).map (s :: ·)

mutual

/-- What a field with this name holds, enclosed by `depth` other members. -/
def Content.classify (depth : Nat) (name : String) (value : Json) :
    Except LookupError Content :=
  if Segments.isSplit name then .error (.malformedRecord (.separatorInName name))
  else if maxDepth < depth then .error (.malformedRecord (.tooDeep name))
  else
    match value with
    | .object members => do
      let fields ← classifyMembers (depth + 1) members
      return .node (.ofFields fields)
    | .array items =>
      if items.all Json.isObject then do
        let nodes ← classifyRecords (depth + 1) items
        return .dataset nodes
      else do
        let items ← scalarItems name items
        return .array items
    | .null => .ok (.scalar .null)
    | .bool b => .ok (.scalar (.bool b))
    | .number n => .ok (.scalar (.number n.toNumber))
    | .string s => .ok (.scalar (.string s))

/-- The fields of an object whose members are enclosed by `depth` others. -/
def classifyMembers (depth : Nat) (members : List (String × Json)) :
    Except LookupError (List (String × Field)) :=
  match members with
  | [] => .ok []
  | (name, value) :: members => do
    let content ← Content.classify depth name value
    let fields ← classifyMembers depth members
    return (name, ⟨name, content⟩) :: fields

/-- The nodes of a list of objects whose members are enclosed by `depth`
others. -/
def classifyRecords (depth : Nat) (records : List Json) : Except LookupError (List Node) :=
  match records with
  | [] => .ok []
  | .object members :: records => do
    let fields ← classifyMembers depth members
    let nodes ← classifyRecords depth records
    return .ofFields fields :: nodes
  | record :: _ => .error (.malformedRecord (.memberNotAnObject record.type))

end

namespace Content

variable {depth : Nat} {name : String}

/-- A name that holds the separator is refused first, whatever its value and depth. -/
theorem classify_of_isSplit (hname : Segments.isSplit name = true) (value : Json) :
    classify depth name value = .error (.malformedRecord (.separatorInName name)) := by
  rw [classify.eq_def, if_pos hname]

/-- A member that is enclosed by too many others is refused whatever its value. -/
theorem classify_of_tooDeep (hname : Segments.isSplit name = false) (hdepth : maxDepth < depth)
    (value : Json) : classify depth name value = .error (.malformedRecord (.tooDeep name)) := by
  rw [classify.eq_def, if_neg (by simp [hname]), if_pos hdepth]

section

variable (hname : Segments.isSplit name = false) (hdepth : depth ≤ maxDepth)
include hname hdepth

/-- An object becomes a nested node. -/
theorem classify_object (members : List (String × Json)) :
    classify depth name (.object members) =
      (classifyMembers (depth + 1) members).map fun fields => .node (.ofFields fields) := by
  rw [classify.eq_def, if_neg (by simp [hname]), if_neg (Nat.not_lt.2 hdepth)]
  dsimp only
  cases classifyMembers (depth + 1) members <;> rfl

/-- An array of objects, or an empty one, becomes a dataset. -/
theorem classify_records {items : List Json} (hitems : items.all Json.isObject = true) :
    classify depth name (.array items) = (classifyRecords (depth + 1) items).map .dataset := by
  rw [classify.eq_def, if_neg (by simp [hname]), if_neg (Nat.not_lt.2 hdepth)]
  simp only [hitems, if_true]
  cases classifyRecords (depth + 1) items <;> rfl

/-- Any other array becomes an array of scalars, if it has no other items. -/
theorem classify_items {items : List Json} (hitems : items.all Json.isObject = false) :
    classify depth name (.array items) = (scalarItems name items).map .array := by
  rw [classify.eq_def, if_neg (by simp [hname]), if_neg (Nat.not_lt.2 hdepth)]
  simp only [hitems, Bool.false_eq_true, if_false]
  cases scalarItems name items <;> rfl

/-- A leaf becomes a scalar. -/
theorem classify_leaf {value : Json} {s : Scalar} (hs : Scalar.ofJson? value = some s) :
    classify depth name value = .ok (.scalar s) := by
  rw [classify.eq_def, if_neg (by simp [hname]), if_neg (Nat.not_lt.2 hdepth)]
  cases value <;> simp_all [Scalar.ofJson?]

end

end Content

/-- **The node of a record,** which must be an object. -/
def Node.ofRecord (record : Json) : Except LookupError Node :=
  match record with
  | .object members => (classifyMembers 0 members).map .ofFields
  | record => .error (.malformedRecord (.notAnObject record.type))

/-- What a field with this name would hold in a record of its own. -/
def Content.ofJson (name : String) (value : Json) : Except LookupError Content :=
  Content.classify 0 name value

/-- The field of a name and a value, enclosed by `depth` other members.  It bears that
name. -/
def Field.classify (depth : Nat) (name : String) (value : Json) : Except LookupError Field :=
  (Content.classify depth name value).map fun content => ⟨name, content⟩

/-- **The field of a name and a value,** as in a record of its own. -/
def Field.ofJson (name : String) (value : Json) : Except LookupError Field :=
  Field.classify 0 name value

/-! ### Writing out -/

mutual

/-- The record that a node was built from. -/
def Node.toJson : Node → Json
  | .ofFields fields => .object (fieldsToJson fields)

/-- The value that what a field holds was built from. -/
def Content.toJson : Content → Json
  | .scalar s => s.toJson
  | .array items => .array (items.map Scalar.toJson)
  | .node n => n.toJson
  | .dataset members => .array (nodesToJson members)

/-- The members of a record, under the names that the fields stand under. -/
def fieldsToJson : List (String × Field) → List (String × Json)
  | [] => []
  | (name, ⟨_, content⟩) :: fields => (name, content.toJson) :: fieldsToJson fields

/-- The records of a list of nodes. -/
def nodesToJson : List Node → List Json
  | [] => []
  | n :: nodes => n.toJson :: nodesToJson nodes

end

/-- The value that a field was built from. -/
def Field.toJson (field : Field) : Json := field.content.toJson

/-- The members of a record are written one by one. -/
theorem fieldsToJson_eq_map (fields : List (String × Field)) :
    fieldsToJson fields = fields.map fun entry => (entry.1, entry.2.toJson) := by
  induction fields with
  | nil => rfl
  | cons entry fields ih =>
    obtain ⟨name, _, content⟩ := entry
    rw [fieldsToJson, ih]
    rfl

/-- The records of a list are written one by one. -/
theorem nodesToJson_eq_map (nodes : List Node) : nodesToJson nodes = nodes.map Node.toJson := by
  induction nodes with
  | nil => rfl
  | cons n nodes ih => simp [nodesToJson, ih]

end RecordQuery
