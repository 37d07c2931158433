/-
# What lookups by pattern rely on

A pattern is read from a text and searched for in strings.  Which texts are patterns
and what they match is up to an engine for patterns: lookups hand it texts and
strings and report what it answers.  All that is said of lookups, keys and queries
holds for any engine; the one that is used when nothing else is said is
`Pattern.engine`.
-/

namespace RecordQuery

/-- An engine for patterns. -/
class PatternEngine where
  /-- Patterns that are ready to be searched for. -/
  Pattern : Type
  /-- The pattern written in a text, if it is well formed and not too large. -/
  compile? (ignoreCase : Bool) (text : List Char) : Option Pattern
  /-- Whether a pattern matches somewhere in a text. -/
  occursIn (pattern : Pattern) (text : List Char) : Bool

export PatternEngine (Pattern)

end RecordQuery
