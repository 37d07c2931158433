/-
# Nodes for inspection

An inspected node shows its fields as a map from names to contents, and an
inspected dataset shows its first nodes.
-/

import RecordQuery.Record.Basic

namespace RecordQuery

/-- How many nodes of a dataset are shown. -/
def shownNodes : Nat := 20

/-- The text of a dataset, from the texts of its nodes. -/
def inspectNodes (texts : List String) : String :=
  let more := if shownNodes < texts.length then ["...(remaining elements truncated)..."] else []
  "Dataset [" ++ ", ".intercalate (texts.take shownNodes ++ more) ++ "]"

mutual

/-- A node with its types. -/
def Node.inspect : Node → String
  | .ofFields fields => "\x7b" ++ ", ".intercalate (fieldTexts fields) ++ "\x7d"

/-- What a field holds, with its types. -/
def Content.inspect : Content → String
  | .scalar s => "Scalar(" ++ s.inspect ++ ")"
  | .array items => "Array(" ++ Scalar.inspectList items ++ ")"
  | .node n => "Node(" ++ n.inspect ++ ")"
  | .dataset members => "Dataset(" ++ inspectNodes (nodeTexts members) ++ ")"

/-- The texts of fields. -/
def fieldTexts : List (String × Field) → List String
  | [] => []
  | (name, ⟨_, content⟩) :: fields =>
    (Text.inspect name ++ ": " ++ content.inspect) :: fieldTexts fields

/-- The texts of nodes. -/
def nodeTexts : List Node → List String
  | [] => []
  | n :: nodes => n.inspect :: nodeTexts nodes

end

end RecordQuery
