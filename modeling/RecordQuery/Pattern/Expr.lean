/-
# Expressions

What a pattern asks for, once flags and names are resolved.  Expressions are built
by functions that keep them in a simple form:

* a class of one character is that character, and characters in a row are one
  `literal`;
* a sequence has at least two parts, none of them empty or a sequence;
* a choice has at least two branches, none of them a choice, not all of them
  classes, not all of them single characters, and not all with a first part in
  common;
* what takes no characters is repeated at most once.

`same_iff` says that the test for equal expressions, by which common parts are
found, decides equality.
-/

import RecordQuery.Pattern.Bytes
import RecordQuery.Pattern.Look
import RecordQuery.Pattern.Positions

namespace RecordQuery
namespace Pattern

/-- An expression.  Characters stand as their code points. -/
inductive Expr where
  | empty
  | literal (chars : List Nat)
  | oneOf (s : CharClass)
  | look (l : Look)
  | times (body : Expr) (min : Nat) (max : Option Nat) (greedy : Bool)
  | remembered (index : Nat) (body : Expr)
  | concat (parts : List Expr)
  | either (branches : List Expr)

namespace Expr

/-! ### Equality -/

mutual

/-- Whether two expressions are the same. -/
def same : Expr → Expr → Bool
  | .empty, .empty => true
  | .literal cs, .literal ds => cs == ds
  | .oneOf s, .oneOf t => s == t
  | .look l, .look k => l == k
  | .times body min max greedy, .times body' min' max' greedy' =>
    min == min' && max == max' && greedy == greedy' && same body body'
  | .remembered index body, .remembered index' body' => index == index' && same body body'
  | .concat parts, .concat parts' => sameAll parts parts'
  | .either branches, .either branches' => sameAll branches branches'
  | _, _ => false

/-- Whether two lists of expressions are the same. -/
def sameAll : List Expr → List Expr → Bool
  | [], [] => true
  | e :: es, f :: fs => same e f && sameAll es fs
  | _, _ => false

end

mutual

/-- Expressions that are the same are equal. -/
theorem eq_of_same : (e f : Expr) → same e f = true → e = f
  | .empty, .empty, _ => rfl
  | .literal _, .literal _, h => by simpa [same] using h
  | .oneOf _, .oneOf _, h => by simpa [same] using h
  | .look _, .look _, h => by simpa [same] using h
  | .times body _ _ _, .times body' _ _ _, h => by
    simp only [same, Bool.and_eq_true, beq_iff_eq] at h
    obtain ⟨⟨⟨rfl, rfl⟩, rfl⟩, h⟩ := h
    rw [eq_of_same body body' h]
  | .remembered _ body, .remembered _ body', h => by
    simp only [same, Bool.and_eq_true, beq_iff_eq] at h
    obtain ⟨rfl, h⟩ := h
    rw [eq_of_same body body' h]
  | .concat parts, .concat parts', h => by rw [eq_of_sameAll parts parts' (by simpa [same] using h)]
  | .either branches, .either branches', h => by
    rw [eq_of_sameAll branches branches' (by simpa [same] using h)]

/-- The same for lists. -/
theorem eq_of_sameAll : (es fs : List Expr) → sameAll es fs = true → es = fs
  | [], [], _ => rfl
  | e :: es, f :: fs, h => by
    simp only [sameAll, Bool.and_eq_true] at h
    rw [eq_of_same e f h.1, eq_of_sameAll es fs h.2]

end

mutual

/-- An expression is the same as itself. -/
theorem same_self : (e : Expr) → same e e = true
  | .empty => rfl
  | .literal _ | .oneOf _ | .look _ => by simp [same]
  | .times body _ _ _ | .remembered _ body => by simp [same, same_self body]
  | .concat es | .either es => by simp [same, sameAll_self es]

/-- So are the expressions of a list. -/
theorem sameAll_self : (es : List Expr) → sameAll es es = true
  | [] => rfl
  | e :: es => by simp [sameAll, same_self e, sameAll_self es]

end

/-- **Being the same is equality.** -/
theorem same_iff {e f : Expr} : same e f = true ↔ e = f :=
  ⟨eq_of_same e f, fun h => h ▸ same_self e⟩

instance : DecidableEq Expr := fun _ _ => decidable_of_iff _ same_iff

/-! ### How many bytes a match takes -/

/-- The bytes of the characters of a class: the fewest and the most. -/
def classLengths (s : CharClass) : Option (Nat × Nat) :=
  match s.ranges.head?, s.ranges.getLast? with
  | some (lo, _), some (_, hi) => some ((bytesOf lo).length, (bytesOf hi).length)
  | _, _ => none

mutual

/-- The fewest bytes that a match takes; none if there is a part that never
matches. -/
def minLength? : Expr → Option Nat
  | .empty => some 0
  | .literal cs => some ((cs.map fun c => (bytesOf c).length).sum)
  | .oneOf s => (classLengths s).map (·.1)
  | .look _ => some 0
  | .times body min _ _ => body.minLength?.map (· * min)
  | .remembered _ body => body.minLength?
  | .concat parts => minTotal? parts
  | .either branches => minLeast? branches

/-- The fewest bytes that several parts take together. -/
def minTotal? : List Expr → Option Nat
  | [] => some 0
  | e :: es => do return (← e.minLength?) + (← minTotal? es)

/-- The fewest bytes that one of several branches takes. -/
def minLeast? : List Expr → Option Nat
  | [] => none
  | [e] => e.minLength?
  | e :: es => do return min (← e.minLength?) (← minLeast? es)

end

mutual

/-- The most bytes that a match takes; none if there is no bound, or a part that
never matches. -/
def maxLength? : Expr → Option Nat
  | .empty => some 0
  | .literal cs => some ((cs.map fun c => (bytesOf c).length).sum)
  | .oneOf s => (classLengths s).map (·.2)
  | .look _ => some 0
  | .times body _ max _ => do return (← body.maxLength?) * (← max)
  | .remembered _ body => body.maxLength?
  | .concat parts => maxTotal? parts
  | .either branches => maxMost? branches

/-- The most bytes that several parts take together. -/
def maxTotal? : List Expr → Option Nat
  | [] => some 0
  | e :: es => do return (← e.maxLength?) + (← maxTotal? es)

/-- The most bytes that one of several branches takes. -/
def maxMost? : List Expr → Option Nat
  | [] => none
  | [e] => e.maxLength?
  | e :: es => do return max (← e.maxLength?) (← maxMost? es)

end

/-- Whether a match takes no bytes. -/
def takesNothing (e : Expr) : Bool := e.maxLength? == some 0

/-! ### Building -/

/-- The expression that never matches. -/
def never : Expr := .oneOf .none

/-- A character of a class. -/
def ofClass (s : CharClass) : Expr :=
  match s.single? with
  | some c => .literal [c]
  | none => .oneOf s

/-- Adds a part in front of a sequence, and joins literals. -/
def consPart : Expr → List Expr → List Expr
  | .empty, es => es
  | .literal cs, .literal ds :: es => .literal (cs ++ ds) :: es
  | e, es => e :: es

/-- The parts of an expression as a sequence. -/
def parts : Expr → List Expr
  | .concat es => es
  | e => [e]

/-- Several expressions one after the other. -/
def sequence (es : List Expr) : Expr :=
  match (es.flatMap parts).foldr consPart [] with
  | [] => .empty
  | [e] => e
  | es => .concat es

/-- A repetition.  What takes no bytes need not be tried more than once. -/
def repetition (body : Expr) (least : Nat) (most : Option Nat) (greedy : Bool) : Expr :=
  let (least, most) :=
    if body.takesNothing then (min least 1, some (min (most.getD 1) 1)) else (least, most)
  if least = 0 ∧ most = some 0 then .empty
  else if least = 1 ∧ most = some 1 then body
  else .times body least most greedy

/-- The branches of an expression as a choice. -/
def branches : Expr → List Expr
  | .either es => es
  | e => [e]

/-- The character of an expression that takes a given one. -/
def onlyChar? : Expr → Option Nat
  | .literal [c] => some c
  | _ => none

/-- The class of an expression that takes a character of a class. -/
def onlyClass? : Expr → Option CharClass
  | .oneOf s => some s
  | _ => none

/-- The parts that two sequences start with in common. -/
def commonStart : List Expr → List Expr → List Expr
  | e :: es, f :: fs => if e = f then e :: commonStart es fs else []
  | _, _ => []

/-- The parts of an expression that is a sequence. -/
def sequenceParts? : Expr → Option (List Expr)
  | .concat es => some es
  | _ => none

/-- Single characters, or classes, as one class. -/
def mergeClasses? (es : List Expr) : Option Expr :=
  match es.mapM onlyChar?, es.mapM onlyClass? with
  | some cs, _ => some (ofClass ⟨Unicode.Ranges.normalize (cs.map fun c => (c, c))⟩)
  | none, some ss => some (ofClass (ss.foldl .union .none))
  | none, none => none

/-- Sequences that start in common as their start and a choice of what follows
it. -/
def shareStart? (es : List Expr) : Option Expr := do
  let first :: others ← es.mapM sequenceParts? | none
  let start := others.foldl commonStart first
  if start.isEmpty then none
  else
    let rests := (first :: others).map fun parts => sequence (parts.drop start.length)
    let rests := rests.flatMap branches
    return sequence (start ++ [(mergeClasses? rests).getD (.either rests)])

/-- A choice between expressions. -/
def choice (es : List Expr) : Expr :=
  match es.flatMap branches with
  | [] => never
  | [e] => e
  | es => (mergeClasses? es <|> shareStart? es).getD (.either es)

/-! ### Looks that every match meets -/

mutual

/-- Whether every match begins where a look holds. -/
def beginsWith (l : Look) : Expr → Bool
  | .look k => k == l
  | .times body min _ _ => 0 < min && body.beginsWith l
  | .remembered _ body => body.beginsWith l
  | .concat parts => anyBeginsWith l parts
  | .either branches => allBeginWith l branches
  | .empty | .literal _ | .oneOf _ => false

/-- The same for a sequence: parts count as long as those before take nothing. -/
def anyBeginsWith (l : Look) : List Expr → Bool
  | [] => false
  | e :: es => e.beginsWith l || (e.takesNothing && anyBeginsWith l es)

/-- The same for all of several branches. -/
def allBeginWith (l : Look) : List Expr → Bool
  | [] => true
  | e :: es => e.beginsWith l && allBeginWith l es

end

mutual

/-- Whether every match ends where a look holds. -/
def endsWith (l : Look) : Expr → Bool
  | .look k => k == l
  | .times body min _ _ => 0 < min && body.endsWith l
  | .remembered _ body => body.endsWith l
  | .concat parts => anyEndsWith l parts
  | .either branches => allEndWith l branches
  | .empty | .literal _ | .oneOf _ => false

/-- The same for a sequence: parts count as long as those after take nothing. -/
def anyEndsWith (l : Look) : List Expr → Bool
  | [] => false
  | e :: es => anyEndsWith l es || (es.all takesNothing && e.endsWith l)

/-- The same for all of several branches. -/
def allEndWith (l : Look) : List Expr → Bool
  | [] => true
  | e :: es => e.endsWith l && allEndWith l es

end

/-! ### Matching -/

mutual

/-- An expression laid over a text. -/
def course (text : List Char) : Expr → Course
  | .empty => .stay
  | .literal cs => cs.foldr (fun c rest => .concat (.step (stepPositions (· == c) text)) rest) .stay
  | .oneOf s => .step (stepPositions s.holds text)
  | .look l => .look (lookPositions l.holds none text)
  | .times body min max _ => .times (body.course text) min max
  | .remembered _ body => body.course text
  | .concat parts => courseOfAll text parts
  | .either branches => courseOfAny text branches

/-- Parts of a sequence laid over a text. -/
def courseOfAll (text : List Char) : List Expr → Course
  | [] => .stay
  | e :: es => .concat (e.course text) (courseOfAll text es)

/-- Branches of a choice laid over a text. -/
def courseOfAny (text : List Char) : List Expr → Course
  | [] => .step 0
  | e :: es => .either (e.course text) (courseOfAny text es)

end

end Expr
end Pattern
end RecordQuery
