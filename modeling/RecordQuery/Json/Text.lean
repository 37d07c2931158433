/-
# JSON text

A value is written as its tokens one after the other, without blanks.  It is
read by a machine that takes one token at a time and holds a frame for every
array and object that is still open; the number of open ones is bounded.  Of two
members of an object with one name the last counts, at the place of the first.
-/

import RecordQuery.Entries
import RecordQuery.Json.Format
import RecordQuery.Json.Token

namespace RecordQuery
namespace Json

/-! ### Writing -/

mutual

/-- The tokens of a value. -/
def tokens : Json → List Token
  | .null => [.null]
  | .bool b => [.bool b]
  | .number n => [.number n]
  | .string s => [.string s]
  | .array items => .openArray :: itemTokens items
  | .object members => .openObject :: memberTokens members

/-- The tokens of the items of an array, up to its end. -/
def itemTokens : List Json → List Token
  | [] => [.closeArray]
  | item :: items => tokens item ++ moreItemTokens items

/-- The tokens that follow an item of an array. -/
def moreItemTokens : List Json → List Token
  | [] => [.closeArray]
  | item :: items => .comma :: (tokens item ++ moreItemTokens items)

/-- The tokens of the members of an object, up to its end. -/
def memberTokens : List (String × Json) → List Token
  | [] => [.closeObject]
  | (name, value) :: members =>
    .string name :: .colon :: (tokens value ++ moreMemberTokens members)

/-- The tokens that follow a member of an object. -/
def moreMemberTokens : List (String × Json) → List Token
  | [] => [.closeObject]
  | (name, value) :: members =>
    .comma :: .string name :: .colon :: (tokens value ++ moreMemberTokens members)

end

/-- The text of a value. -/
def text (value : Json) : String := String.ofList (value.tokens.flatMap Token.written)

/-! ### Reading -/

/-- An array or object that is still open. -/
inductive Frame where
  /-- The items of an array so far, the last one first. -/
  | items (done : List Json)
  /-- The members of an object so far. -/
  | members (done : Entries Json)
  /-- The members of an object so far, and the name of the one being read. -/
  | member (done : Entries Json) (name : String)

/-- What may come next, with the open arrays and objects, the inmost first. -/
inductive Reading where
  /-- A value. -/
  | value (stack : List Frame)
  /-- The first item of the inmost array, or its end. -/
  | firstItem (stack : List Frame)
  /-- The first name in the inmost object, or its end. -/
  | firstName (stack : List Frame)
  /-- A name in the inmost object. -/
  | name (stack : List Frame)
  /-- The colon after a name. -/
  | colon (stack : List Frame)
  /-- A comma, or the end of the inmost array or object. -/
  | more (stack : List Frame)
  /-- Nothing: the value is complete. -/
  | complete (value : Json)

namespace Reading

/-- Puts a complete value where it belongs. -/
def finish (value : Json) : List Frame → Option Reading
  | [] => some (.complete value)
  | .items done :: stack => some (.more (.items (value :: done) :: stack))
  | .member done key :: stack => some (.more (.members (Entries.put key value done) :: stack))
  | .members _ :: _ => none

/-- Takes the first token of a value; at most `limit` arrays and objects may be
open. -/
def begin? (limit : Nat) (stack : List Frame) : Token → Option Reading
  | .null => finish .null stack
  | .bool b => finish (.bool b) stack
  | .number n => finish (.number n) stack
  | .string s => finish (.string s) stack
  | .openArray => if stack.length < limit then some (.firstItem (.items [] :: stack)) else none
  | .openObject => if stack.length < limit then some (.firstName (.members [] :: stack)) else none
  | _ => none

/-- Takes the name of a member. -/
def name? : List Frame → Token → Option Reading
  | .members done :: stack, .string key => some (.colon (.member done key :: stack))
  | _, _ => none

/-- Takes one token. -/
def step? (limit : Nat) : Reading → Token → Option Reading
  | .value stack, token => begin? limit stack token
  | .firstItem (.items _ :: stack), .closeArray => finish (.array []) stack
  | .firstItem stack, token => begin? limit stack token
  | .firstName (.members _ :: stack), .closeObject => finish (.object []) stack
  | .firstName stack, token => name? stack token
  | .name stack, token => name? stack token
  | .colon stack, .colon => some (.value stack)
  | .more (.items done :: stack), .comma => some (.value (.items done :: stack))
  | .more (.items done :: stack), .closeArray => finish (.array done.reverse) stack
  | .more (.members done :: stack), .comma => some (.name (.members done :: stack))
  | .more (.members done :: stack), .closeObject => finish (.object done) stack
  | _, _ => none

end Reading

/-- The value that a row of tokens writes, with at most `limit` arrays and
objects open at a time. -/
def ofTokens? (limit : Nat) (tokens : List Token) : Option Json :=
  match tokens.foldlM (Reading.step? limit) (.value []) with
  | some (.complete value) => some value
  | _ => none

/-- The value that a text writes. -/
def ofText? (text : String) : Option Json := do
  ofTokens? maxNesting (← tokens? text.toList)

/-- The format of these texts. -/
instance standard : Format := ⟨text, ofText?⟩

end Json
end RecordQuery
