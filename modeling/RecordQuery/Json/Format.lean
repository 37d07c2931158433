/-
# Formats of JSON text

A dataset is loaded from a text and written to one through a format, which says how a
JSON value is written and what a text is read as.  The format that is used when nothing
else is said is `Json.standard`.
-/

import RecordQuery.Json.Basic

namespace RecordQuery
namespace Json

/-- A way of writing JSON values as texts and of reading them back. -/
class Format where
  /-- The text of a value. -/
  write (value : Json) : String
  /-- The value that a text writes, if it writes one and can be read. -/
  read? (text : String) : Option Json

/-- How many arrays and objects may be nested in a text that is read. -/
def maxNesting : Nat := 127

end Json
end RecordQuery
