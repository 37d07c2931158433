/-
# Patterns

A pattern is read into a tree, and the tree is given its meaning under the flags
in force: which characters each class holds, where each anchor holds, and what
ignoring case adds.  The result is an expression that can be searched for in a
text, if it is not too large.

Where characters are bytes (flag `u` switched off) a pattern may only ask for
what cannot split a character, so the dot, properties, and negated classes are
refused there.
-/

import RecordQuery.Pattern.Automaton.Basic
import RecordQuery.Pattern.Engine
import RecordQuery.Pattern.Reader

namespace RecordQuery
namespace Pattern

/-! ### Flags -/

/-- The flags in force that change what a pattern means. -/
structure Flags where
  ignoreCase : Bool
  multiLine : Bool
  dotMatchesNewLine : Bool
  swapGreed : Bool
  unicode : Bool
  crlf : Bool
  deriving DecidableEq, Repr

namespace Flags

/-- The flags at the start of a pattern. -/
def initial (ignoreCase : Bool) : Flags := ⟨ignoreCase, false, false, false, true, false⟩

/-- Switches one flag. -/
def set (flags : Flags) : Flag × Bool → Flags
  | (.ignoreCase, b) => { flags with ignoreCase := b }
  | (.multiLine, b) => { flags with multiLine := b }
  | (.dotMatchesNewLine, b) => { flags with dotMatchesNewLine := b }
  | (.unicode, b) => { flags with unicode := b }
  | (.crlf, b) => { flags with crlf := b }
  | (.swapGreed, b) => { flags with swapGreed := b }
  | (.ignoreWhitespace, _) => flags

/-- Switches all flags that a change names. -/
def apply (flags : Flags) (change : FlagChange) : Flags := change.foldl set flags

/-- A class closed under case if case is ignored. -/
def close (flags : Flags) (s : CharClass) : CharClass :=
  if !flags.ignoreCase then s else if flags.unicode then s.fold else s.foldAscii

/-- A class closed under case if case is ignored, then negated if so written.
Where characters are bytes a negated class could split a character. -/
def close? (flags : Flags) (negated : Bool) (s : CharClass) : Option CharClass :=
  if !negated then some (flags.close s)
  else if flags.unicode then some (flags.close s).negate
  else none

end Flags

/-! ### Meaning -/

/-- A literal that is one character long; bytes beyond ASCII are none. -/
def Literal.isWhole (l : Literal) (flags : Flags) : Bool :=
  flags.unicode || !l.isByte || l.char.toNat < 0x80

/-- The code point of a literal in a bracket.  Where characters are bytes it must
be in ASCII. -/
def Literal.inBracket? (l : Literal) (flags : Flags) : Option Nat :=
  if flags.unicode || l.char.toNat < 0x80 then some l.char.toNat else none

/-- A shorthand class under the flags in force. -/
def shorthandClass? (flags : Flags) (negated : Bool) (kind : Shorthand) : Option CharClass :=
  let s := CharClass.ofShorthand flags.unicode kind
  if !negated then some s else if flags.unicode then some s.negate else none

/-- Whether a property name asks for the characters that have not its value. -/
def PropertyName.differs : PropertyName → Bool
  | .plain _ => false
  | .withValue _ differs _ => differs

/-- The class of a property under the flags in force. -/
def propertyClass? (flags : Flags) (negated : Bool) (name : PropertyName) : Option CharClass :=
  if flags.unicode then
    (CharClass.ofPropertyName? name).bind (flags.close? (negated != name.differs))
  else none

/-- An operation on two sides, closed under case if case is ignored. -/
def operate (flags : Flags) (op : SetOperation) (s t : CharClass) : CharClass :=
  match op with
  | .intersection => (flags.close s).inter (flags.close t)
  | .difference => (flags.close s).diff (flags.close t)
  | .symmetricDifference => (flags.close s).symmDiff (flags.close t)

mutual

/-- The class that a set in a bracket stands for. -/
def ClassSet.meaning? (flags : Flags) : ClassSet → Option CharClass
  | .literal l => (l.inBracket? flags).map CharClass.single
  | .range lo hi => do
    return CharClass.range (← lo.inBracket? flags) (← hi.inBracket? flags)
  | .ascii negated kind => flags.close? negated (CharClass.ofAscii kind)
  | .shorthand negated kind => shorthandClass? flags negated kind
  | .property negated name => propertyClass? flags negated name
  | .bracket negated set => do flags.close? negated (← set.meaning? flags)
  | .union sets => ClassSet.meaningAll? flags sets
  | .combined op left right => do
    return operate flags op (← left.meaning? flags) (← right.meaning? flags)

/-- The union of the classes of several sets. -/
def ClassSet.meaningAll? (flags : Flags) : List ClassSet → Option CharClass
  | [] => some CharClass.none
  | set :: sets => do
    return (← set.meaning? flags).union (← ClassSet.meaningAll? flags sets)

end

/-- A literal under the flags in force. -/
def Literal.meaning? (flags : Flags) (l : Literal) : Option Expr :=
  if l.isWhole flags then some (.ofClass (flags.close (.single l.char.toNat))) else none

/-- The characters that a dot stands for. -/
def dotClass (flags : Flags) : CharClass :=
  if flags.dotMatchesNewLine then .all
  else if flags.crlf then ((CharClass.single 0x0A).union (.single 0x0D)).negate
  else (CharClass.single 0x0A).negate

/-- An anchor under the flags in force. -/
def Anchor.meaning (flags : Flags) : Anchor → Look
  | .lineStart =>
    if !flags.multiLine then .textStart else if flags.crlf then .anyLineStart else .lineStart
  | .lineEnd =>
    if !flags.multiLine then .textEnd else if flags.crlf then .anyLineEnd else .lineEnd
  | .textStart => .textStart
  | .textEnd => .textEnd
  | .boundary => .boundary flags.unicode
  | .notBoundary => .notBoundary flags.unicode
  | .wordStart => .wordStart flags.unicode
  | .wordEnd => .wordEnd flags.unicode
  | .wordStartHalf => .wordStartHalf flags.unicode
  | .wordEndHalf => .wordEndHalf flags.unicode

/-- The flags at the start of a group. -/
def GroupKind.flags (kind : GroupKind) (flags : Flags) : Flags :=
  match kind with
  | .remembered _ => flags
  | .plain change => flags.apply change

/-- A group around an expression. -/
def GroupKind.around (kind : GroupKind) (body : Expr) : Expr :=
  match kind with
  | .remembered index => .remembered index body
  | .plain _ => body

mutual

/-- What a tree means under the flags in force, and the flags that are in force
after it. -/
def Tree.meaning? (flags : Flags) : Tree → Option (Expr × Flags)
  | .empty => some (.empty, flags)
  | .flags change => some (.empty, flags.apply change)
  | .literal l => (l.meaning? flags).map (·, flags)
  | .dot => if flags.unicode then some (.ofClass (dotClass flags), flags) else none
  | .anchor a => some (.look (a.meaning flags), flags)
  | .shorthand negated kind =>
    (shorthandClass? flags negated kind).map fun s => (.ofClass s, flags)
  | .property negated name =>
    (propertyClass? flags negated name).map fun s => (.ofClass s, flags)
  | .bracket negated set => do
    let s ← flags.close? negated (← set.meaning? flags)
    return (.ofClass s, flags)
  | .times body min max greedy => do
    let (body, flags) ← body.meaning? flags
    return (body.repetition min max (greedy != flags.swapGreed), flags)
  | .group kind body => do
    let (body, _) ← body.meaning? (kind.flags flags)
    return (kind.around body, flags)
  | .concat parts => do
    let (parts, flags) ← Tree.meanings? flags parts
    return (.sequence parts, flags)
  | .alternation branches => do
    let (branches, flags) ← Tree.meanings? flags branches
    return (.choice branches, flags)

/-- What several trees mean, read one after the other. -/
def Tree.meanings? (flags : Flags) : List Tree → Option (List Expr × Flags)
  | [] => some ([], flags)
  | tree :: trees => do
    let (e, flags) ← tree.meaning? flags
    let (es, flags) ← Tree.meanings? flags trees
    return (e :: es, flags)

end

/-- **The expression written in a text,** if it is well formed and not too large. -/
def compile? (ignoreCase : Bool) (text : List Char) : Option Expr := do
  let tree ← Tree.read? text
  let (expr, _) ← tree.meaning? (Flags.initial ignoreCase)
  if expr.fits then return expr else none

/-- Whether an expression matches somewhere in a text. -/
def Expr.occursIn (expr : Expr) (text : List Char) : Bool :=
  (expr.course text).run text.length (Positions.upTo text.length) != 0

/-- The engine of these patterns. -/
instance engine : PatternEngine := ⟨Expr, compile?, Expr.occursIn⟩

end Pattern
end RecordQuery
