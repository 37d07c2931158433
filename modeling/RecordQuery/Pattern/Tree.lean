/-
# Patterns as they are written

A pattern is read into a tree that keeps what was written: literals, classes,
repetitions, groups, and where flags change.  What a tree means, which depends
on the flags in force, is decided afterwards.

| written | tree |
| --- | --- |
| `a`, `\n`, `\x41` | `literal` |
| `.` | `dot` |
| `^`, `$`, `\A`, `\z`, `\b`, `\B` | `anchor` |
| `\d`, `\s`, `\w` | `shorthand` |
| `\pL`, `\p{Greek}` | `property` |
| `[a-z]` | `bracket` |
| `x?`, `x*`, `x+`, `x{2,3}` | `times` |
| `(x)`, `(?i:x)` | `group` |
| `(?i)` | `flags` |
-/

namespace RecordQuery
namespace Pattern

/-- A character that stands for itself.  One written as `\xhh` counts as a byte
where characters are bytes. -/
structure Literal where
  char : Char
  isByte : Bool
  deriving DecidableEq, Repr

/-- What flags can switch. -/
inductive Flag where
  | ignoreCase
  | multiLine
  | dotMatchesNewLine
  | swapGreed
  | unicode
  | crlf
  | ignoreWhitespace
  deriving DecidableEq, Repr

/-- A change of flags: each named flag, switched on or off. -/
abbrev FlagChange := List (Flag × Bool)

/-- The shorthand classes: digits, spaces and word characters. -/
inductive Shorthand where
  | digit
  | space
  | word
  deriving DecidableEq, Repr

/-- The classes of ASCII characters that a bracket can name. -/
inductive AsciiClass where
  | alnum | alpha | ascii | blank | cntrl | digit | graph
  | lower | print | punct | space | upper | word | xdigit
  deriving DecidableEq, Repr

/-- A property of characters: by its name, or by the name of a property and a
value that it has or, where `differs` is set, has not. -/
inductive PropertyName where
  | plain (name : String)
  | withValue (name : String) (differs : Bool) (value : String)
  deriving DecidableEq, Repr

/-- The two kinds of groups. -/
inductive GroupKind where
  /-- A group that is remembered; groups are counted by their opening. -/
  | remembered (index : Nat)
  /-- A group that is not remembered, and may change flags. -/
  | plain (change : FlagChange)
  deriving DecidableEq, Repr

/-- The places that an anchor can name. -/
inductive Anchor where
  | lineStart
  | lineEnd
  | textStart
  | textEnd
  | boundary
  | notBoundary
  | wordStart
  | wordEnd
  | wordStartHalf
  | wordEndHalf
  deriving DecidableEq, Repr

/-- The operations on the two sides of a bracket. -/
inductive SetOperation where
  | intersection
  | difference
  | symmetricDifference
  deriving DecidableEq, Repr

/-- What a bracket holds. -/
inductive ClassSet where
  | literal (l : Literal)
  | range (lo hi : Literal)
  | ascii (negated : Bool) (kind : AsciiClass)
  | shorthand (negated : Bool) (kind : Shorthand)
  | property (negated : Bool) (name : PropertyName)
  | bracket (negated : Bool) (set : ClassSet)
  | union (sets : List ClassSet)
  | combined (op : SetOperation) (left right : ClassSet)

/-- A pattern as it is written. -/
inductive Tree where
  | empty
  | flags (change : FlagChange)
  | literal (l : Literal)
  | dot
  | anchor (a : Anchor)
  | shorthand (negated : Bool) (kind : Shorthand)
  | property (negated : Bool) (name : PropertyName)
  | bracket (negated : Bool) (set : ClassSet)
  /-- A repetition, which prefers many rounds if it is `greedy`, else few. -/
  | times (body : Tree) (min : Nat) (max : Option Nat) (greedy : Bool)
  | group (kind : GroupKind) (body : Tree)
  | concat (parts : List Tree)
  | alternation (branches : List Tree)

mutual

/-- How deep brackets, unions and operations are nested.  A side of an operation with nothing
on it is no level of its own. -/
def ClassSet.depth : ClassSet → Nat
  | .bracket _ set => set.depth + 1
  | .union [] => 0
  | .union (set :: sets) => max set.depth (ClassSet.depthAll sets) + 1
  | .combined _ left right => max left.depth right.depth + 1
  | _ => 0

/-- The depth of the deepest of several sets. -/
def ClassSet.depthAll : List ClassSet → Nat
  | [] => 0
  | set :: sets => max set.depth (ClassSet.depthAll sets)

end

mutual

/-- How deep groups, repetitions, sequences, alternations and brackets are
nested. -/
def Tree.depth : Tree → Nat
  | .bracket _ set => set.depth + 1
  | .times body _ _ _ => body.depth + 1
  | .group _ body => body.depth + 1
  | .concat parts => Tree.depthAll parts + 1
  | .alternation branches => Tree.depthAll branches + 1
  | _ => 0

/-- The depth of the deepest of several trees. -/
def Tree.depthAll : List Tree → Nat
  | [] => 0
  | tree :: trees => max tree.depth (Tree.depthAll trees)

end

end Pattern
end RecordQuery
