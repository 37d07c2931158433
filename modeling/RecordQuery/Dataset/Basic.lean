/-
# Datasets

A dataset is a list of nodes, together with whether its queries cascade, that
is, whether they also narrow the datasets nested in the nodes that they keep.
Every operation that gives a new dataset switches cascading off.
-/

import RecordQuery.Json.Text
import RecordQuery.Record.Classify
import RecordQuery.Record.Inspect

namespace RecordQuery

/-- Nodes in order. -/
structure Dataset where
  nodes : List Node
  cascade : Bool

namespace Dataset

/-- The dataset of some nodes. -/
def ofNodes (nodes : List Node) : Dataset := ⟨nodes, false⟩

/-- The same nodes, with cascading queries. -/
def onCascade (d : Dataset) : Dataset := ⟨d.nodes, true⟩

/-- The dataset of a list of records. -/
def ofRecords (records : List Json) : Except LookupError Dataset :=
  (classifyRecords 0 records).map ofNodes

/-- The dataset of one record or of an array of records. -/
def ofJson (value : Json) : Except LookupError Dataset :=
  match value with
  | .object members => (classifyMembers 0 members).map fun fields => ofNodes [.ofFields fields]
  | .array records => ofRecords records
  | value => .error (.malformedRecord (.notADataset value.type))

/-- The dataset written in a JSON text. -/
def ofText [Json.Format] (text : String) : Except LookupError Dataset :=
  match Json.Format.read? text with
  | some value => ofJson value
  | none => .error .invalidJson

/-- The dataset written in a file with these contents, if it can be read. -/
def ofFile [Json.Format] (contents : Option String) : Except LookupError Dataset :=
  match contents with
  | some text => ofText text
  | none => .error .unreadable

/-- The records that a dataset was built from. -/
def toJson (d : Dataset) : Json := .array (nodesToJson d.nodes)

/-- The JSON text of a dataset. -/
def toText [Json.Format] (d : Dataset) : String := Json.Format.write d.toJson

/-- A dataset with its types. -/
def inspect (d : Dataset) : String := inspectNodes (nodeTexts d.nodes)

end Dataset
end RecordQuery
