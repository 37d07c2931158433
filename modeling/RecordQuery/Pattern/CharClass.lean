/-
# Classes of characters

A class is a set of characters.  The named classes come from the properties of
characters; they are those of version 16.0 of the character set, so a character
that is newer belongs to no script, is no letter and has no case.
-/

import RecordQuery.Pattern.Tree
import RecordQuery.Unicode.Age
import RecordQuery.Unicode.Folding
import RecordQuery.Unicode.GraphemeBreak
import RecordQuery.Unicode.Property
import RecordQuery.Unicode.Script
import RecordQuery.Unicode.SentenceBreak
import RecordQuery.Unicode.WordBreak

namespace RecordQuery
namespace Pattern

/-- A set of characters. -/
structure CharClass where
  ranges : Unicode.Ranges
  deriving DecidableEq, Repr

namespace CharClass

/-- Whether a character is in a class. -/
def holds (s : CharClass) (c : Nat) : Bool := s.ranges.contains c

/-- The class without characters. -/
def none : CharClass := ⟨[]⟩

/-- The characters from `lo` to `hi`. -/
def range (lo hi : Nat) : CharClass := ⟨[(lo, hi)]⟩

/-- One character. -/
def single (c : Nat) : CharClass := range c c

/-- All characters. -/
def all : CharClass := range 0 Unicode.lastCodePoint

/-- All characters but those of a class. -/
def negate (s : CharClass) : CharClass := ⟨s.ranges.complement⟩

/-- The characters of either class. -/
def union (s t : CharClass) : CharClass := ⟨s.ranges.union t.ranges⟩

/-- The characters of both classes. -/
def inter (s t : CharClass) : CharClass := ⟨s.ranges.inter t.ranges⟩

/-- The characters of the first class that are not in the second. -/
def diff (s t : CharClass) : CharClass := ⟨s.ranges.diff t.ranges⟩

/-- The characters of exactly one of two classes. -/
def symmDiff (s t : CharClass) : CharClass := ⟨s.ranges.symmDiff t.ranges⟩

/-- A class with all case variants of its characters. -/
def fold (s : CharClass) : CharClass := ⟨Unicode.closeUnderCase s.ranges⟩

/-- A class with both cases of its ASCII letters. -/
def foldAscii (s : CharClass) : CharClass :=
  let lowered := (s.inter (range 0x41 0x5A)).ranges.map fun (lo, hi) => (lo + 0x20, hi + 0x20)
  let raised := (s.inter (range 0x61 0x7A)).ranges.map fun (lo, hi) => (lo - 0x20, hi - 0x20)
  (s.union ⟨lowered⟩).union ⟨raised⟩

/-- Whether all characters of a class are ASCII. -/
def isAscii (s : CharClass) : Bool := s.ranges.all (·.2 < 0x80)

/-- The character of a class that has only one. -/
def single? (s : CharClass) : Option Nat :=
  match s.ranges with
  | [(lo, hi)] => if lo = hi then some lo else Option.none
  | _ => Option.none

/-! ### Named classes -/

/-- The characters of some general categories. -/
def ofCategories (categories : List Unicode.Category) : CharClass :=
  ⟨Unicode.Category.ranges categories⟩

/-- The characters with a property. -/
def ofProperty (p : Unicode.Property) : CharClass := ⟨p.ranges⟩

/-- Decimal digits of any script. -/
def digit : CharClass := ofCategories [.nd]

/-- White space of any script. -/
def space : CharClass := ofProperty Unicode.Property.whiteSpace

/-- Word characters of any script: letters, marks, digits, connecting punctuation
and the controls that join letters. -/
def word : CharClass :=
  ((ofProperty Unicode.Property.alphabetic).union
    (ofCategories (Unicode.Category.marks ++ [.nd, .pc]))).union
      (ofProperty Unicode.Property.joinControl)

/-- The ranges of an ASCII class. -/
def asciiRanges : AsciiClass → Unicode.Ranges
  | .alnum => [(0x30, 0x39), (0x41, 0x5A), (0x61, 0x7A)]
  | .alpha => [(0x41, 0x5A), (0x61, 0x7A)]
  | .ascii => [(0x00, 0x7F)]
  | .blank => [(0x09, 0x09), (0x20, 0x20)]
  | .cntrl => [(0x00, 0x1F), (0x7F, 0x7F)]
  | .digit => [(0x30, 0x39)]
  | .graph => [(0x21, 0x7E)]
  | .lower => [(0x61, 0x7A)]
  | .print => [(0x20, 0x7E)]
  | .punct => [(0x21, 0x2F), (0x3A, 0x40), (0x5B, 0x60), (0x7B, 0x7E)]
  | .space => [(0x09, 0x0D), (0x20, 0x20)]
  | .upper => [(0x41, 0x5A)]
  | .word => [(0x30, 0x39), (0x41, 0x5A), (0x5F, 0x5F), (0x61, 0x7A)]
  | .xdigit => [(0x30, 0x39), (0x41, 0x46), (0x61, 0x66)]

/-- An ASCII class. -/
def ofAscii (kind : AsciiClass) : CharClass := ⟨asciiRanges kind⟩

/-- A shorthand class, over all characters or over ASCII. -/
def ofShorthand (unicode : Bool) : Shorthand → CharClass
  | .digit => if unicode then digit else ofAscii .digit
  | .space => if unicode then space else ofAscii .space
  | .word => if unicode then word else ofAscii .word

/-- The general categories that a name stands for, apart from the surrogates,
which no character has. -/
def categoryNames : List (List String × List Unicode.Category) :=
  [(["c", "other"], Unicode.Category.others),
    (["cc", "control", "cntrl"], [.cc]),
    (["cf", "format"], [.cf]),
    (["cn", "unassigned"], [.cn]),
    (["co", "privateuse"], [.co]),
    (["l", "letter"], Unicode.Category.letters),
    (["lc", "casedletter"], [.lu, .ll, .lt]),
    (["ll", "lowercaseletter"], [.ll]),
    (["lm", "modifierletter"], [.lm]),
    (["lo", "otherletter"], [.lo]),
    (["lt", "titlecaseletter"], [.lt]),
    (["lu", "uppercaseletter"], [.lu]),
    (["m", "mark", "combiningmark"], Unicode.Category.marks),
    (["mc", "spacingmark"], [.mc]),
    (["me", "enclosingmark"], [.me]),
    (["mn", "nonspacingmark"], [.mn]),
    (["n", "number"], Unicode.Category.numbers),
    (["nd", "decimalnumber", "digit"], [.nd]),
    (["nl", "letternumber"], [.nl]),
    (["no", "othernumber"], [.no]),
    (["p", "punctuation", "punct"], Unicode.Category.punctuation),
    (["pc", "connectorpunctuation"], [.pc]),
    (["pd", "dashpunctuation"], [.pd]),
    (["pe", "closepunctuation"], [.pe]),
    (["pf", "finalpunctuation"], [.pf]),
    (["pi", "initialpunctuation"], [.pi]),
    (["po", "otherpunctuation"], [.po]),
    (["ps", "openpunctuation"], [.ps]),
    (["s", "symbol"], Unicode.Category.symbols),
    (["sc", "currencysymbol"], [.sc]),
    (["sk", "modifiersymbol"], [.sk]),
    (["sm", "mathsymbol"], [.sm]),
    (["so", "othersymbol"], [.so]),
    (["z", "separator"], Unicode.Category.separators),
    (["zl", "lineseparator"], [.zl]),
    (["zp", "paragraphseparator"], [.zp]),
    (["zs", "spaceseparator"], [.zs])]

/-- A name in lower case, without blanks, underscores, hyphens, characters beyond
ASCII, and without `is` in front.  The name `isc` keeps it. -/
def normalName (name : String) : String :=
  let cs := name.toList
  let is := (cs.take 2).map Char.toLower = ['i', 's']
  let kept := ((if is then cs.drop 2 else cs).filter fun c =>
    c != ' ' && c != '_' && c != '-' && c.toNat < 0x80).map Char.toLower
  if is && kept = ['c'] then "isc" else String.ofList kept

/-- The characters of the general category with this name. -/
def ofCategoryName? (name : String) : Option CharClass :=
  if name = "any" then some all
  else if name = "assigned" then some (ofCategories [.cn]).negate
  else if name = "ascii" then some (ofAscii .ascii)
  else (categoryNames.find? (·.1.contains name)).map fun (_, categories) => ofCategories categories

/-- The characters assigned by a version, written `6.0` or `V6_0`. -/
def ofVersionName? (name : String) : Option CharClass :=
  (Unicode.Age.versions.find? fun v =>
    v = name || "v" ++ String.ofList (v.toList.filter (· != '.')) = name).map fun v =>
      ⟨Unicode.Age.rangesUntil v⟩

/-- The characters whose property has the value with this name, for a property
whose values have codes. -/
def ofValueName? (names : List (String × String)) (ranges : String → Unicode.Ranges)
    (name : String) : Option CharClass :=
  (names.lookup name).map fun code => ⟨ranges code⟩

/-- The characters of the script with this name. -/
def ofScriptName? : String → Option CharClass :=
  ofValueName? Unicode.Script.names Unicode.Script.ranges

/-- The properties with more than two values by name, each with the classes of
its values by name. -/
def valuedProperties : List (List String × (String → Option CharClass)) :=
  [(["gc", "generalcategory"], ofCategoryName?),
    (["sc", "script"], ofScriptName?),
    (["scx", "scriptextensions"],
      ofValueName? Unicode.Script.names Unicode.Script.extensionRanges),
    (["age"], ofVersionName?),
    (["gcb", "graphemeclusterbreak"],
      ofValueName? Unicode.GraphemeBreak.names Unicode.GraphemeBreak.ranges),
    (["wb", "wordbreak"], ofValueName? Unicode.WordBreak.names Unicode.WordBreak.ranges),
    (["sb", "sentencebreak"],
      ofValueName? Unicode.SentenceBreak.names Unicode.SentenceBreak.ranges)]

/-- The class that a property name stands for; whether the value is one that the
characters have not is left aside.  A plain name is looked for among the
two-valued properties, the general categories and the scripts, in this order;
`cf`, `sc` and `lc` are general categories only. -/
def ofPropertyName? : PropertyName → Option CharClass
  | .plain name =>
    let name := normalName name
    let property :=
      if name = "cf" ∨ name = "sc" ∨ name = "lc" then Option.none
      else (Unicode.Property.names.lookup name).map ofProperty
    property <|> ofCategoryName? name <|> ofScriptName? name
  | .withValue name _ value => do
    let (_, ofValue?) ← valuedProperties.find? (·.1.contains (normalName name))
    ofValue? (normalName value)

end CharClass
end Pattern
end RecordQuery
