/-
# Nodes and their fields

A record is classified once, when it is taken in, and is a node from then on.  A
node is a table of fields in order, and every field holds a scalar, an array of
scalars, one nested node, or a dataset of nodes.  The first two are values, the
others are related nodes.

A field bears a name of its own beside the one that it stands under in the table.
What makes a table gives a field the same name twice, but neither of the two is
read off the other: fields are found, listed and written out by the names in the
table, while narrowing goes by the names that they bear.
-/

import RecordQuery.Entries
import RecordQuery.Lookup.Operand

namespace RecordQuery

mutual

/-- A classified record: its fields under their names, in order. -/
inductive Node where
  | ofFields (fields : List (String × Field))

/-- A field: the name that it bears, and what it holds. -/
structure Field where
  name : String
  content : Content

/-- What a field of a node holds. -/
inductive Content where
  | scalar (s : Scalar)
  | array (items : List Scalar)
  | node (n : Node)
  | dataset (members : List Node)

end

instance : Inhabited Node := ⟨.ofFields []⟩

namespace Node

/-- The fields of a node under their names, in order. -/
def fields : Node → List (String × Field)
  | .ofFields fields => fields

/-- The names that the fields stand under, in order. -/
def names (n : Node) : List String := Entries.names n.fields

/-- The field under a name. -/
def get? (n : Node) (name : String) : Option Field := Entries.get? name n.fields

/-- The field under a name; the error lists the names that exist. -/
def get (n : Node) (name : String) : Except LookupError Field :=
  match n.get? name with
  | some field => .ok field
  | none => .error (.unknownField name n.names)

/-- The node whose fields hold these contents under these names, and bear them. -/
def ofContents (contents : List (String × Content)) : Node :=
  .ofFields (contents.map fun (name, content) => (name, ⟨name, content⟩))

end Node

namespace Content

/-- The shape of a field. -/
def shape : Content → Shape
  | .scalar _ => .scalar
  | .array _ => .array
  | .node _ => .node
  | .dataset _ => .dataset

/-- Whether a field holds nodes. -/
def isRelated (content : Content) : Bool := content.shape.isRelated

/-- The value of a field that holds no nodes. -/
def value? : Content → Option Value
  | .scalar s => some (.scalar s)
  | .array items => some (.array items)
  | .node _ => none
  | .dataset _ => none

/-- The nodes that a field holds. -/
def related : Content → List Node
  | .scalar _ => []
  | .array _ => []
  | .node n => [n]
  | .dataset members => members

end Content

namespace Field

/-- Where content is asked for, a field gives what it holds. -/
instance : Coe Field Content := ⟨content⟩

/-- The shape of what a field holds. -/
def shape (field : Field) : Shape := field.content.shape

/-- Whether a field holds nodes. -/
def isRelated (field : Field) : Bool := field.content.isRelated

/-- The nodes that a field holds. -/
def related (field : Field) : List Node := field.content.related

/-- A field that a node is found in holds nodes. -/
theorem isRelated_of_mem {field : Field} {child : Node} (h : child ∈ field.related) :
    field.isRelated := by
  obtain ⟨_, content⟩ := field
  cases content with
  | scalar s => exact absurd h List.not_mem_nil
  | array items => exact absurd h List.not_mem_nil
  | node n => rfl
  | dataset members => rfl

end Field

/-- **Induction over nested nodes:** what holds of a node whenever it holds of all
nodes that its fields hold, holds of every node. -/
theorem Node.induction {P : Node → Prop}
    (step : ∀ n : Node, (∀ name field, (name, field) ∈ n.fields →
      ∀ child ∈ field.related, P child) → P n) (n : Node) : P n := by
  refine @Node.rec P (fun field => ∀ child ∈ field.related, P child)
    (fun content => ∀ child ∈ content.related, P child)
    (fun fields => ∀ name field, (name, field) ∈ fields → ∀ child ∈ field.related, P child)
    (fun members => ∀ child ∈ members, P child) (fun entry => ∀ child ∈ entry.2.related, P child)
    ?_ ?_ ?_ ?_ ?_ ?_ ?_ ?_ ?_ ?_ ?_ n
  · exact fun fields ih => step (.ofFields fields) ih
  · exact fun _ _ ih => ih
  · exact fun _ _ h => absurd h List.not_mem_nil
  · exact fun _ _ h => absurd h List.not_mem_nil
  · exact fun n ih child h => List.mem_singleton.1 h ▸ ih
  · exact fun _ ih => ih
  · exact fun _ _ h => absurd h List.not_mem_nil
  · intro head fields ihHead ihFields name field h
    rcases List.mem_cons.1 h with rfl | h
    · exact ihHead
    · exact ihFields name field h
  · exact fun _ h => absurd h List.not_mem_nil
  · intro head members ihHead ihMembers child h
    rcases List.mem_cons.1 h with rfl | h
    · exact ihHead
    · exact ihMembers child h
  · exact fun _ _ ih => ih

end RecordQuery
