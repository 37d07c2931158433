/-
# Reading a pattern

A pattern is read from left to right.  A reader of a part takes the characters
from the start of that part and gives back what it read with the characters that
follow, or nothing if the pattern is not well formed.  Many take the flag
`extended`: with it, blanks and comments from `#` to the end of the line are
skipped.

Loops that take at least one character a round are bounded by the length of the
pattern.
-/

import RecordQuery.Pattern.Tree
import RecordQuery.Text.Letters
import RecordQuery.Unicode.Property

namespace RecordQuery
namespace Pattern

/-! ### Blanks -/

/-- Drops blanks and comments; `inComment` tells whether a comment is open. -/
def dropBlanks : Bool → List Char → List Char
  | _, [] => []
  | true, c :: cs => dropBlanks (c != '\n') cs
  | false, c :: cs =>
    if Unicode.isWhiteSpace c then dropBlanks false cs
    else if c = '#' then dropBlanks true cs
    else c :: cs

/-- Drops blanks and comments if they do not count. -/
def skip (extended : Bool) (cs : List Char) : List Char :=
  if extended then dropBlanks false cs else cs

/-- The characters up to a closing brace, and what follows it. -/
def untilBrace (extended : Bool) : Bool → List Char → Option (List Char × List Char)
  | _, [] => none
  | true, c :: cs => untilBrace extended (c != '\n') cs
  | false, c :: cs =>
    if extended && Unicode.isWhiteSpace c then untilBrace extended false cs
    else if extended && c = '#' then untilBrace extended true cs
    else if c = '\x7d' then some ([], cs)
    else (untilBrace extended false cs).map fun (text, rest) => (c :: text, rest)

/-! ### Numbers -/

/-- Decimal digits. -/
def isDigit (c : Char) : Bool := '0' ≤ c && c ≤ '9'

/-- Hexadecimal digits. -/
def isHexDigit (c : Char) : Bool :=
  isDigit c || ('a' ≤ c && c ≤ 'f') || ('A' ≤ c && c ≤ 'F')

/-- Digits, with the blanks between and after them dropped. -/
def takeDigits (extended : Bool) : Bool → List Char → List Char × List Char
  | _, [] => ([], [])
  | true, c :: cs => takeDigits extended (c != '\n') cs
  | false, c :: cs =>
    if isDigit c then
      let (digits, rest) := takeDigits extended false cs
      (c :: digits, rest)
    else if extended && Unicode.isWhiteSpace c then takeDigits extended false cs
    else if extended && c = '#' then takeDigits extended true cs
    else ([], c :: cs)

/-- A repetition count; it fits into 32 bits. -/
def readCount? (extended : Bool) (cs : List Char) : Option (Nat × List Char) :=
  let (digits, rest) := takeDigits extended false (cs.dropWhile Unicode.isWhiteSpace)
  let n := digits.foldl (fun n c => 10 * n + (c.toNat - '0'.toNat)) 0
  if digits.isEmpty || UInt32.size ≤ n then none
  else some (n, skip extended (rest.dropWhile Unicode.isWhiteSpace))

/-- The character with a number written in hexadecimal. -/
def charOfHex? (digits : List Char) : Option Char :=
  let n := Unicode.hexNat digits
  if digits.isEmpty || !digits.all isHexDigit then none
  else if n.isValidChar then some (Char.ofNat n)
  else none

/-- Exactly `n` hexadecimal digits. -/
def takeHex? (extended : Bool) : Nat → List Char → Option (List Char × List Char)
  | 0, cs => some ([], cs)
  | _ + 1, [] => none
  | n + 1, c :: cs =>
    if isHexDigit c then
      (takeHex? extended n (skip extended cs)).map fun (digits, rest) => (c :: digits, rest)
    else none

/-- A character by its number, after the letter `x`, `u` or `U`: between braces,
or with two, four or eight digits. -/
def readHex? (extended : Bool) (letter : Char) (cs : List Char) : Option (Literal × List Char) :=
  match skip extended cs with
  | '\x7b' :: cs => do
    let (digits, rest) ← untilBrace extended false cs
    return (⟨← charOfHex? digits, false⟩, skip extended rest)
  | cs => do
    let n := if letter = 'x' then 2 else if letter = 'u' then 4 else 8
    let (digits, rest) ← takeHex? extended n cs
    return (⟨← charOfHex? digits, letter = 'x'⟩, rest)

/-! ### Escapes -/

/-- One piece of a pattern that is neither a group nor a bracket. -/
inductive Atom where
  | literal (l : Literal)
  | anchor (a : Anchor)
  | shorthand (negated : Bool) (kind : Shorthand)
  | property (negated : Bool) (name : PropertyName)

/-- The parts of a text before and after the first occurrence of `mark`. -/
def cutOnce? (mark : List Char) : List Char → Option (List Char × List Char)
  | [] => none
  | c :: cs =>
    if mark.isPrefixOf (c :: cs) then some ([], (c :: cs).drop mark.length)
    else (cutOnce? mark cs).map fun (before, after) => (c :: before, after)

/-- The property that the text between braces names. -/
def propertyName (text : List Char) : PropertyName :=
  match cutOnce? ['!', '='] text with
  | some (name, value) => .withValue (String.ofList name) true (String.ofList value)
  | none =>
    match cutOnce? [':'] text <|> cutOnce? ['='] text with
    | some (name, value) => .withValue (String.ofList name) false (String.ofList value)
    | none => .plain (String.ofList text)

/-- A property, after the letter `p` or `P`: between braces, or one letter. -/
def readProperty? (extended : Bool) (cs : List Char) : Option (PropertyName × List Char) :=
  match skip extended cs with
  | [] => none
  | '\x7b' :: cs =>
    (untilBrace extended false cs).map fun (text, rest) => (propertyName text, rest)
  | c :: cs =>
    if c = '\\' then none else some (.plain (String.ofList [c]), skip extended cs)

/-- Which boundary `\b` names, given what follows it: one of four between braces,
or the plain one.  A brace with anything but a letter or a hyphen in front is
left alone, since it may begin a repetition. -/
def readBoundary? (extended : Bool) (cs : List Char) : Option (Anchor × List Char) :=
  match cs with
  | '\x7b' :: inner =>
    match skip extended inner with
    | [] => none
    | c :: _ =>
      if c.isAlpha || c = '-' then do
        let (text, rest) ← untilBrace extended false inner
        let anchor ← [("start", Anchor.wordStart), ("end", .wordEnd),
          ("start-half", .wordStartHalf), ("end-half", .wordEndHalf)].lookup (String.ofList text)
        return (anchor, rest)
      else some (.boundary, cs)
  | _ => some (.boundary, cs)

/-- The character that a letter after a backslash stands for. -/
def controlLetter? (c : Char) : Option Char :=
  [('a', '\x07'), ('f', '\x0c'), ('t', '\t'), ('n', '\n'), ('r', '\r'), ('v', '\x0b')].lookup c

/-- The shorthand class of a letter, negated if it is a capital. -/
def shorthandLetter? (c : Char) : Option (Bool × Shorthand) :=
  [('d', (false, .digit)), ('s', (false, .space)), ('w', (false, .word)),
    ('D', (true, .digit)), ('S', (true, .space)), ('W', (true, .word))].lookup c

/-- The anchor of a character after a backslash. -/
def anchorLetter? (c : Char) : Option Anchor :=
  [('A', .textStart), ('z', .textEnd), ('B', .notBoundary), ('<', .wordStart),
    ('>', .wordEnd)].lookup c

/-- What follows a backslash.  Punctuation and other characters of ASCII stand
for themselves; letters and digits without a meaning are refused. -/
def readEscape? (extended : Bool) : List Char → Option (Atom × List Char)
  | [] => none
  | c :: cs =>
    if c = 'x' ∨ c = 'u' ∨ c = 'U' then
      (readHex? extended c cs).map fun (l, rest) => (.literal l, rest)
    else if c = 'p' ∨ c = 'P' then
      (readProperty? extended cs).map fun (name, rest) => (.property (c = 'P') name, rest)
    else if c = 'b' then
      (readBoundary? extended cs).map fun (anchor, rest) => (.anchor anchor, rest)
    else match shorthandLetter? c, controlLetter? c, anchorLetter? c with
      | some (negated, kind), _, _ => some (.shorthand negated kind, cs)
      | _, some control, _ => some (.literal ⟨control, false⟩, cs)
      | _, _, some anchor => some (.anchor anchor, cs)
      | none, none, none =>
        if c.toNat < 0x80 && !c.isAlphanum then some (.literal ⟨c, false⟩, cs) else none

/-! ### Brackets -/

/-- The ASCII classes by name. -/
def asciiClasses : List (String × AsciiClass) :=
  [("alnum", .alnum), ("alpha", .alpha), ("ascii", .ascii), ("blank", .blank),
    ("cntrl", .cntrl), ("digit", .digit), ("graph", .graph), ("lower", .lower),
    ("print", .print), ("punct", .punct), ("space", .space), ("upper", .upper),
    ("word", .word), ("xdigit", .xdigit)]

/-- A named ASCII class such as `[:alpha:]`, after its bracket.  Anything else
is no error, but the start of a nested bracket. -/
def readAscii? (cs : List Char) : Option (ClassSet × List Char) :=
  match cs with
  | ':' :: cs =>
    let (negated, cs) := match cs with
      | '^' :: cs => (true, cs)
      | cs => (false, cs)
    let name := cs.takeWhile (· != ':')
    match cs.dropWhile (· != ':') with
    | ':' :: ']' :: rest =>
      (asciiClasses.lookup (String.ofList name)).map fun kind => (.ascii negated kind, rest)
    | _ => none
  | _ => none

/-- One piece inside a bracket. -/
def readSetAtom? (extended : Bool) : List Char → Option (Atom × List Char)
  | [] => none
  | '\\' :: cs => readEscape? extended cs
  | c :: cs => some (.literal ⟨c, false⟩, cs)

/-- A piece as a member of a bracket; anchors are none. -/
def Atom.toSet? : Atom → Option ClassSet
  | .literal l => some (.literal l)
  | .anchor _ => none
  | .shorthand negated kind => some (.shorthand negated kind)
  | .property negated name => some (.property negated name)

/-- The character after a hyphen, blanks and the start of a comment aside. -/
def peekAfterHyphen (extended : Bool) (cs : List Char) : Option Char :=
  if extended then
    match cs.dropWhile Unicode.isWhiteSpace with
    | '#' :: cs => (cs.dropWhile Unicode.isWhiteSpace).head?
    | cs => cs.head?
  else cs.head?

/-- One member of a bracket: a range if a hyphen follows that is neither last nor
doubled, else a single piece. -/
def readMember? (extended : Bool) (cs : List Char) : Option (ClassSet × List Char) := do
  let (first, rest) ← readSetAtom? extended cs
  match skip extended rest with
  | [] => none
  | '-' :: rest =>
    let next := peekAfterHyphen extended rest
    if next = some ']' ∨ next = some '-' then return (← first.toSet?, '-' :: rest)
    else
      match first, ← readSetAtom? extended (skip extended rest) with
      | .literal lo, (.literal hi, rest) =>
        if lo.char ≤ hi.char then return (.range lo hi, rest) else none
      | _, _ => none
  | rest => return (← first.toSet?, rest)

/-- The members of a bracket as one set; they are collected last first. -/
def gather : List ClassSet → ClassSet
  | [set] => set
  | sets => .union sets.reverse

/-- The set to the left of an operation, if there is one, with the members that
follow. -/
def combine (left : Option (SetOperation × ClassSet)) (sets : List ClassSet) : ClassSet :=
  match left with
  | none => gather sets
  | some (op, left) => .combined op left (gather sets)

/-- How many hyphens stand at the start of a bracket, and what follows them. -/
def leadingHyphens (extended : Bool) : Bool → List Char → Nat × List Char
  | _, [] => (0, [])
  | true, c :: cs => leadingHyphens extended (c != '\n') cs
  | false, c :: cs =>
    if c = '-' then
      let (n, rest) := leadingHyphens extended false cs
      (n + 1, rest)
    else if extended && Unicode.isWhiteSpace c then leadingHyphens extended false cs
    else if extended && c = '#' then leadingHyphens extended true cs
    else (0, c :: cs)

/-- The start of a bracket: whether it is negated, and the members that stand for
themselves there, which are hyphens, or a closing bracket if it comes first. -/
def readBracketStart? (extended : Bool) (cs : List Char) :
    Option (Bool × List ClassSet × List Char) :=
  let (negated, cs) := match skip extended cs with
    | '^' :: cs => (true, cs)
    | cs => (false, cs)
  match leadingHyphens extended false cs with
  | (_, []) => none
  | (0, ']' :: cs) => some (negated, [.literal ⟨']', false⟩], cs)
  | (n, cs) => some (negated, List.replicate n (.literal ⟨'-', false⟩), cs)

mutual

/-- A bracket, after its opening. -/
def readBracket? (extended : Bool) : Nat → List Char → Option ((Bool × ClassSet) × List Char)
  | 0, _ => none
  | fuel + 1, cs => do
    let (negated, sets, cs) ← readBracketStart? extended cs
    let (set, rest) ← readMembers? extended fuel none sets cs
    return ((negated, set), rest)

/-- The members of a bracket up to its end: `left` is the set before the last
operation, `sets` the members after it, the last first. -/
def readMembers? (extended : Bool) : Nat → Option (SetOperation × ClassSet) → List ClassSet →
    List Char → Option (ClassSet × List Char)
  | 0, _, _, _ => none
  | fuel + 1, left, sets, cs =>
    match skip extended cs with
    | [] => none
    | ']' :: rest => some (combine left sets, rest)
    | '[' :: rest =>
      match readAscii? rest with
      | some (set, rest) => readMembers? extended fuel left (set :: sets) rest
      | none => do
        let ((negated, set), rest) ← readBracket? extended fuel rest
        readMembers? extended fuel left (.bracket negated set :: sets) rest
    | '&' :: '&' :: rest =>
      readMembers? extended fuel (some (.intersection, combine left sets)) [] rest
    | '-' :: '-' :: rest =>
      readMembers? extended fuel (some (.difference, combine left sets)) [] rest
    | '~' :: '~' :: rest =>
      readMembers? extended fuel (some (.symmetricDifference, combine left sets)) [] rest
    | cs => do
      let (set, rest) ← readMember? extended cs
      readMembers? extended fuel left (set :: sets) rest

end

/-! ### Groups -/

/-- The flag of a letter. -/
def flagLetter? (c : Char) : Option Flag :=
  [('i', .ignoreCase), ('m', .multiLine), ('s', .dotMatchesNewLine), ('U', .swapGreed),
    ('u', .unicode), ('R', .crlf), ('x', .ignoreWhitespace)].lookup c

/-- Flags up to the `:` or `)` that ends them, which is given back with them.
No flag may come twice; one `-` may stand before some of them, and switches
those off. -/
def readFlags? (seen : List Flag) (negated dangling : Bool) :
    List Char → Option (FlagChange × Char × List Char)
  | [] => none
  | c :: cs =>
    if c = ':' ∨ c = ')' then if dangling then none else some ([], c, cs)
    else if c = '-' then if negated then none else readFlags? seen true true cs
    else do
      let flag ← flagLetter? c
      if seen.contains flag then none
      else
        let (change, last, rest) ← readFlags? (flag :: seen) negated false cs
        return ((flag, !negated) :: change, last, rest)

/-- What a change says about one flag. -/
def FlagChange.get? (change : FlagChange) (flag : Flag) : Option Bool := change.lookup flag

/-- The name of a group, up to `>`. -/
def readGroupName? (cs : List Char) : Option (String × List Char) :=
  let name := cs.takeWhile (· != '>')
  match name, cs.dropWhile (· != '>') with
  | first :: others, '>' :: rest =>
    if (first = '_' || Text.isLetter first) &&
        others.all fun c => "_.[]".toList.contains c || Text.isLetter c || Text.isNumber c then
      some (String.ofList name, rest)
    else none
  | _, _ => none

/-- What an opening parenthesis begins. -/
inductive Opening where
  | flags (change : FlagChange)
  | group (change : FlagChange)
  | remembered (name : Option String)

/-- What follows an opening parenthesis.  Looking ahead or behind is refused. -/
def readOpening? (extended : Bool) (cs : List Char) : Option (Opening × List Char) :=
  match skip extended cs with
  | '?' :: 'P' :: '<' :: cs => (readGroupName? cs).map fun (name, rest) => (.remembered name, rest)
  | '?' :: '<' :: '=' :: _ => none
  | '?' :: '<' :: '!' :: _ => none
  | '?' :: '<' :: cs => (readGroupName? cs).map fun (name, rest) => (.remembered name, rest)
  | '?' :: cs => do
    let (change, last, rest) ← readFlags? [] false false cs
    if last = ':' then return (.group change, rest)
    else if change.isEmpty then none
    else return (.flags change, rest)
  | cs => some (.remembered none, cs)

/-! ### The whole pattern -/

/-- A sequence that is being read: its parts, the last first, and the branches
before it that belong to the same group, the last first. -/
structure Sequence where
  parts : List Tree
  branches : List Tree

/-- A sequence of parts, given the last first. -/
def sequenceOf : List Tree → Tree
  | [] => .empty
  | [part] => part
  | parts => .concat parts.reverse

/-- The tree of a sequence with the branches before it. -/
def Sequence.close (s : Sequence) : Tree :=
  match s.branches with
  | [] => sequenceOf s.parts
  | branches => .alternation (sequenceOf s.parts :: branches).reverse

/-- A group that is still open: the sequence around it, its kind, and whether
blanks were skipped around it. -/
structure OpenGroup where
  outer : Sequence
  kind : GroupKind
  extended : Bool

/-- How far a pattern has been read: the sequence and the open groups around it,
inmost first, how many groups are remembered and the names of some, and whether
blanks are skipped. -/
structure Progress where
  current : Sequence
  groups : List OpenGroup
  remembered : Nat
  names : List String
  extended : Bool

namespace Progress

/-- The start of a pattern. -/
def start : Progress := ⟨⟨[], []⟩, [], 0, [], false⟩

/-- Adds a part at the end of the current sequence. -/
def push (p : Progress) (part : Tree) : Progress :=
  { p with current := { p.current with parts := part :: p.current.parts } }

/-- Ends the current branch. -/
def branch (p : Progress) : Progress :=
  { p with current := ⟨[], sequenceOf p.current.parts :: p.current.branches⟩ }

/-- Repeats the last part.  There must be one, and it must not be a change of
flags. -/
def repeatLast? (p : Progress) (min : Nat) (max : Option Nat) (greedy : Bool) :
    Option Progress :=
  match p.current.parts with
  | [] => none
  | .flags _ :: _ => none
  | part :: parts =>
    some { p with current := { p.current with parts := .times part min max greedy :: parts } }

/-- Opens a group, in which blanks are skipped if it is `extended`. -/
def openAs (p : Progress) (kind : GroupKind) (extended : Bool) : Progress :=
  { p with
    current := ⟨[], []⟩
    groups := ⟨p.current, kind, p.extended⟩ :: p.groups
    extended := extended }

/-- Opens what follows a parenthesis.  No two groups have one name. -/
def openGroup? (p : Progress) : Opening → Option Progress
  | .flags change =>
    some { p.push (.flags change) with
      extended := (change.get? .ignoreWhitespace).getD p.extended }
  | .group change =>
    some (p.openAs (.plain change) ((change.get? .ignoreWhitespace).getD p.extended))
  | .remembered name =>
    if name.any p.names.contains then none
    else
      let index := p.remembered + 1
      some { p.openAs (.remembered index) p.extended with
        remembered := index, names := name.toList ++ p.names }

/-- Closes the inmost group. -/
def closeGroup? (p : Progress) : Option Progress :=
  match p.groups with
  | [] => none
  | g :: groups =>
    some (push { p with current := g.outer, groups := groups, extended := g.extended }
      (.group g.kind p.current.close))

end Progress

/-- The bounds between the braces of a repetition, after the opening one. -/
def readBounds? (extended : Bool) (cs : List Char) :
    Option ((Nat × Option Nat) × List Char) := do
  match ← readCount? extended (skip extended cs) with
  | (n, '\x7d' :: rest) => return ((n, some n), rest)
  | (n, ',' :: rest) =>
    match skip extended rest with
    | '\x7d' :: rest => return ((n, none), rest)
    | rest =>
      match ← readCount? extended rest with
      | (m, '\x7d' :: rest) => if n ≤ m then return ((n, some m), rest) else none
      | _ => none
  | _ => none

/-- Whether a repetition prefers many rounds: unless a `?` follows it. -/
def readGreed : List Char → Bool × List Char
  | '?' :: cs => (false, cs)
  | cs => (true, cs)

/-- A piece as a part of a pattern. -/
def Atom.toTree : Atom → Tree
  | .literal l => .literal l
  | .anchor a => .anchor a
  | .shorthand negated kind => .shorthand negated kind
  | .property negated name => .property negated name

/-- Reads on from `p`, at most `fuel` parts. -/
def readFrom? : Nat → Progress → List Char → Option Tree
  | 0, _, _ => none
  | fuel + 1, p, cs =>
    match skip p.extended cs with
    | [] => if p.groups.isEmpty then some p.current.close else none
    | '(' :: cs => do
      let (opening, cs) ← readOpening? p.extended cs
      readFrom? fuel (← p.openGroup? opening) cs
    | ')' :: cs => do readFrom? fuel (← p.closeGroup?) cs
    | '|' :: cs => readFrom? fuel p.branch cs
    | '[' :: cs => do
      let ((negated, set), cs) ← readBracket? p.extended (2 * cs.length + 2) cs
      readFrom? fuel (p.push (.bracket negated set)) cs
    | '?' :: cs => do
      let (greedy, cs) := readGreed cs
      readFrom? fuel (← p.repeatLast? 0 (some 1) greedy) cs
    | '*' :: cs => do
      let (greedy, cs) := readGreed cs
      readFrom? fuel (← p.repeatLast? 0 none greedy) cs
    | '+' :: cs => do
      let (greedy, cs) := readGreed cs
      readFrom? fuel (← p.repeatLast? 1 none greedy) cs
    | '\x7b' :: cs => do
      let ((min, max), cs) ← readBounds? p.extended cs
      let (greedy, cs) := readGreed (skip p.extended cs)
      readFrom? fuel (← p.repeatLast? min max greedy) cs
    | '\\' :: cs => do
      let (atom, cs) ← readEscape? p.extended cs
      readFrom? fuel (p.push atom.toTree) cs
    | '.' :: cs => readFrom? fuel (p.push .dot) cs
    | '^' :: cs => readFrom? fuel (p.push (.anchor .lineStart)) cs
    | '$' :: cs => readFrom? fuel (p.push (.anchor .lineEnd)) cs
    | c :: cs => readFrom? fuel (p.push (.literal ⟨c, false⟩)) cs

/-- How deep the parts of a pattern may be nested. -/
def maxNesting : Nat := 250

/-- **The tree of a pattern,** if it is well formed and not nested too deep. -/
def Tree.read? (pattern : List Char) : Option Tree := do
  let tree ← readFrom? (pattern.length + 1) .start pattern
  if tree.depth ≤ maxNesting then return tree else none

end Pattern
end RecordQuery
