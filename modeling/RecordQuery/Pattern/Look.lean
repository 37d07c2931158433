/-
# Places in a text

A look asks for a place, which it recognises by the characters before and after
it: the ends of the text, the ends of lines, the ends of words.
-/

import RecordQuery.Pattern.CharClass

namespace RecordQuery
namespace Pattern

/-- What an expression can look for at a position. -/
inductive Look where
  | textStart
  | textEnd
  | lineStart
  | lineEnd
  /-- As `lineStart` and `lineEnd`, where `\r`, `\n` and `\r\n` end a line. -/
  | anyLineStart
  | anyLineEnd
  | boundary (unicode : Bool)
  | notBoundary (unicode : Bool)
  | wordStart (unicode : Bool)
  | wordEnd (unicode : Bool)
  | wordStartHalf (unicode : Bool)
  | wordEndHalf (unicode : Bool)
  deriving DecidableEq, Repr

namespace Look

/-- Whether there is a word character, of any script or of ASCII. -/
def isWord (unicode : Bool) : Option Char → Bool
  | none => false
  | some c => (if unicode then CharClass.word else CharClass.ofAscii .word).holds c.toNat

/-- Whether a look holds between two characters. -/
def holds : Look → Option Char → Option Char → Bool
  | .textStart, before, _ => before.isNone
  | .textEnd, _, after => after.isNone
  | .lineStart, before, _ => before.isNone || before == some '\n'
  | .lineEnd, _, after => after.isNone || after == some '\n'
  | .anyLineStart, before, after =>
    before.isNone || before == some '\n' || (before == some '\r' && after != some '\n')
  | .anyLineEnd, before, after =>
    after.isNone || after == some '\r' || (after == some '\n' && before != some '\r')
  | .boundary u, before, after => isWord u before != isWord u after
  | .notBoundary u, before, after => isWord u before == isWord u after
  | .wordStart u, before, after => !isWord u before && isWord u after
  | .wordEnd u, before, after => isWord u before && !isWord u after
  | .wordStartHalf u, before, _ => !isWord u before
  | .wordEndHalf u, _, after => !isWord u after

end Look
end Pattern
end RecordQuery
