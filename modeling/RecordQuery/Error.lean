/-
# What can go wrong

Each error names its cause.  The wording of all messages is here and nowhere
else.
-/

import RecordQuery.Segments
import RecordQuery.Shape
import RecordQuery.TypeName

namespace RecordQuery

/-- How many levels of members may enclose a member of a record. -/
def maxDepth : Nat := 128

/-- Why a value is no record, or no dataset. -/
inductive RecordFault where
  /-- A name holds the separator of segments. -/
  | separatorInName (name : String)
  /-- A member is enclosed by too many others. -/
  | tooDeep (name : String)
  /-- An array is neither all objects nor all scalars. -/
  | mixedArray (name : String)
  /-- A node is built from something other than an object. -/
  | notAnObject (got : TypeName)
  /-- A dataset is built from something other than an object or an array. -/
  | notADataset (got : TypeName)
  /-- A member of a dataset is not an object. -/
  | memberNotAnObject (got : TypeName)
  deriving DecidableEq, Repr

/-- Why a key, or the name of related fields, leads nowhere. -/
inductive PathFault where
  | emptyKey
  | noField
  | emptySegment
  /-- The path goes on from a field that holds a value. -/
  | valueField (name next : String)
  | emptyRelatedName
  /-- A related field is named that holds a value. -/
  | notRelated (name : String)
  deriving DecidableEq, Repr

/-- Why a lookup cannot use its operand. -/
inductive ArgumentFault where
  | expectedString (got : TypeName)
  | expectedListOrString (got : TypeName)
  | expectedPair
  | expectedBool (got : TypeName)
  | expectedPattern (got : TypeName)
  | expectedLength (got : TypeName)
  /-- An item of a list operand is itself an array or object. -/
  | nestedItem (got : TypeName)
  | expectedScalarOrList (got : TypeName)
  deriving DecidableEq, Repr

/-- Why an operation on records fails. -/
inductive LookupError where
  | malformedRecord (cause : RecordFault)
  | invalidPath (key : String) (cause : PathFault)
  | unknownField (field : String) (available : List String)
  | unsupportedLookup (lookup : String) (shape : Shape)
  | typeMismatch (lookup : String) (left right : TypeName)
  | invalidArgument (lookup : String) (cause : ArgumentFault)
  /-- A pattern is not well formed, or too large. -/
  | invalidPattern
  | objectNotFound
  /-- A text is not JSON. -/
  | invalidJson
  /-- A file cannot be read. -/
  | unreadable
  deriving DecidableEq, Repr

/-- A text between single quotation marks. -/
def inQuotes (s : String) : String := "'" ++ s ++ "'"

/-- The wording of a record fault. -/
def RecordFault.message : RecordFault → String
  | .separatorInName name =>
    "field name " ++ inQuotes name ++ " must not contain " ++ inQuotes Segments.separator
  | .tooDeep name =>
    "field " ++ inQuotes name ++ " is nested deeper than " ++
      String.ofList (Nat.toDigits 10 maxDepth) ++ " levels"
  | .mixedArray name =>
    "field " ++ inQuotes name ++ " mixes records with scalars or nests arrays"
  | .notAnObject got => "a node must be built from an object, got " ++ got.word
  | .notADataset got =>
    "a dataset must be built from an object or an array of objects, got " ++ got.word
  | .memberNotAnObject got => "dataset members must be objects, got " ++ got.word

/-- The wording of a path fault. -/
def PathFault.message : PathFault → String
  | .emptyKey => "key is empty"
  | .noField => "key names a lookup but no field"
  | .emptySegment => "key has an empty segment"
  | .valueField name next =>
    inQuotes name ++ " is a value field and has no field " ++ inQuotes next
  | .emptyRelatedName => "related field name has an empty segment"
  | .notRelated name => inQuotes name ++ " is a value field"

/-- The wording of an argument fault. -/
def ArgumentFault.message : ArgumentFault → String
  | .expectedString got => "expected a string, got " ++ got.word
  | .expectedListOrString got => "expected a list or a string, got " ++ got.word
  | .expectedPair => "expected a (low, high) pair"
  | .expectedBool got => "expected a bool, got " ++ got.word
  | .expectedPattern got => "expected a pattern string, got " ++ got.word
  | .expectedLength got => "expected a non-negative integer, got " ++ got.word
  | .nestedItem got => "list items must be scalars, got " ++ got.word
  | .expectedScalarOrList got => "expected a scalar or a list, got " ++ got.word

/-- The wording of an error. -/
def LookupError.message : LookupError → String
  | .malformedRecord cause => "malformed record: " ++ cause.message
  | .invalidPath key cause => "invalid path " ++ inQuotes key ++ ": " ++ cause.message
  | .unknownField field available =>
    "field " ++ inQuotes field ++ " not found (available: " ++ ", ".intercalate available ++ ")"
  | .unsupportedLookup lookup shape =>
    "lookup " ++ inQuotes lookup ++ " cannot be applied to " ++ shape.word ++ " fields"
  | .typeMismatch lookup left right =>
    "type mismatch in " ++ inQuotes lookup ++ ": cannot compare " ++ left.word ++ " with " ++
      right.word
  | .invalidArgument lookup cause =>
    "invalid argument for " ++ inQuotes lookup ++ ": " ++ cause.message
  | .invalidPattern => "invalid pattern"
  | .objectNotFound => "object not found"
  | .invalidJson => "invalid json"
  | .unreadable => "unreadable file"

end RecordQuery
