/-
# The tokens of a text are read back

Reading takes tokens from the front of a text.  A written token shows by its first character
what it is, and a string runs up to the first quotation mark that is not escaped, so both are
read back whatever follows.  Only a number runs as far as it can: a digit, a point or an
exponent behind it would be taken for a part of it.  No token but a number begins with one of
these, so a row of tokens is read back if no two numbers stand next to each other.
-/

import Mathlib.Data.List.Chain
import Mathlib.Tactic.SplitIfs
import RecordQuery.Proofs.NumberText

namespace RecordQuery
namespace Json

variable {c : Char} {rest : List Char}

/-! ### Strings -/

/-- A string with one more character in front. -/
def withChar (c : Char) (read : List Char × List Char) : List Char × List Char :=
  (c :: read.1, read.2)

/-- A character that needs no escape stands for itself. -/
theorem unquote?_plain (hcontrol : 0x20 ≤ c.toNat) (hquote : c ≠ '"') (hslash : c ≠ '\\') :
    unquote? (c :: rest) = (unquote? rest).map (withChar c) := by
  have hallowed : ¬((decide (c.toNat < 0x20) || decide (c = '\\')) = true) := by
    simp [hslash, hcontrol]
  rw [unquote?, if_neg hallowed]
  · cases unquote? rest <;> rfl
  · exact hquote
  · rintro _ _ _ _ _ rfl
    exact absurd rfl hslash
  · rintro _ _ rfl
    exact absurd rfl hslash

/-- An escape of one letter stands for its character. -/
theorem unquote?_letter {letter : Char} (h : unescape? letter = some c) :
    unquote? ('\\' :: letter :: rest) = (unquote? rest).map (withChar c) := by
  rw [unquote?]
  · simp only [h, Option.bind_eq_bind, Option.bind_some]
    cases unquote? rest <;> rfl
  · rintro _ _ _ _ _ rfl
    simp [unescape?] at h

/-- An escape of four digits stands for the character with their value. -/
theorem unquote?_unit {a b c d : Char} {n : Nat} (rest : List Char)
    (h : hexValue4? a b c d = some n) (hleading : isLeading n = false)
    (htrailing : isTrailing n = false) :
    unquote? ('\\' :: 'u' :: a :: b :: c :: d :: rest) =
      (unquote? rest).map (withChar (Char.ofNat n)) := by
  rw [unquote?]
  simp only [h, hleading, htrailing, Option.bind_eq_bind, Option.bind_some, Bool.false_eq_true,
    if_false]
  cases unquote? rest <;> rfl

/-- The four digits of a control denote it, and it is no half of a character. -/
theorem hexValue4?_control : ∀ n < 0x20,
    hexValue4? '0' '0' (Nat.digitChar (n / 16)) (Nat.digitChar (n % 16)) = some n ∧
      isLeading n = false ∧ isTrailing n = false := by
  decide

/-- **A character inside a string is read back,** escaped or not. -/
theorem unquote?_escape (c : Char) (rest : List Char) :
    unquote? (escape c ++ rest) = (unquote? rest).map (withChar c) := by
  unfold escape
  split_ifs with hquote hslash hnewline hreturn htab hbackspace hfeed hcontrol
  · subst hquote
    exact unquote?_letter rfl
  · subst hslash
    exact unquote?_letter rfl
  · subst hnewline
    exact unquote?_letter rfl
  · subst hreturn
    exact unquote?_letter rfl
  · subst htab
    exact unquote?_letter rfl
  · subst hbackspace
    exact unquote?_letter rfl
  · subst hfeed
    exact unquote?_letter rfl
  · obtain ⟨hvalue, hleading, htrailing⟩ := hexValue4?_control c.toNat hcontrol
    have hunit := unquote?_unit rest hvalue hleading htrailing
    rwa [Char.ofNat_toNat] at hunit
  · exact unquote?_plain (Nat.le_of_not_lt hcontrol) hquote hslash

/-- **A string is read back** up to its closing quotation mark. -/
theorem unquote?_flatMap_escape (s rest : List Char) :
    unquote? (s.flatMap escape ++ '"' :: rest) = some (s, rest) := by
  induction s with
  | nil => simp [unquote?]
  | cons c s ih =>
    rw [List.flatMap_cons, List.append_assoc, unquote?_escape, ih]
    rfl

/-! ### Tokens -/

namespace Token

/-- Whether a token is a number. -/
def isNumber : Token → Bool
  | .number _ => true
  | _ => false

variable {t : Token}

/-- What begins with a digit is scanned as a number. -/
theorem scan?_digit {cs : List Char} (h : isDigit c) :
    scan? (c :: cs) = (scanNumber? false (c :: cs)).map fun (n, rest) => (.number n, rest) := by
  unfold scan?
  split
  case h_12 => rfl
  all_goals
    rename_i heq
    obtain ⟨rfl, -⟩ := List.cons.inj heq
    cases h

/-- **A written token is read back,** a number if what follows can not be part of it. -/
theorem scan?_written (h : t.isNumber → EndsNumber rest) :
    scan? (t.written ++ rest) = some (t, rest) := by
  cases t with
  | number n =>
    obtain ⟨negative, body, htext, hread⟩ := exists_readsBack n
    obtain ⟨c, cs, hbody, hdigit⟩ := hread.exists_cons
    have hscan := hread.scan (h rfl)
    rw [written, htext]
    cases negative with
    | true =>
      show (scanNumber? true (body ++ rest)).map _ = _
      rw [hscan]
      rfl
    | false =>
      rw [hbody] at hscan ⊢
      show scan? (c :: (cs ++ rest)) = _
      rw [scan?_digit hdigit]
      exact congrArg _ hscan
  | string s =>
    show (unquote? (s.toList.flatMap escape ++ ['"'] ++ rest)).map _ = _
    rw [List.append_assoc, List.singleton_append, unquote?_flatMap_escape]
    exact congrArg (fun s => some (string s, rest)) String.ofList_toList
  | bool b => cases b <;> rfl
  | _ => rfl

/-- The first character of a written token is not blank, and can not be part of a number before
it unless the token is a number. -/
theorem exists_written_eq_cons (t : Token) : ∃ c cs, t.written = c :: cs ∧ isBlank c = false ∧
    (t.isNumber = false → isDigit c = false ∧ c ≠ '.' ∧ c ≠ 'e' ∧ c ≠ 'E') := by
  cases t with
  | number n =>
    obtain ⟨negative, body, htext, hread⟩ := exists_readsBack n
    obtain ⟨c, cs, hbody, hdigit⟩ := hread.exists_cons
    rw [written, htext, hbody]
    cases negative with
    | true => exact ⟨'-', c :: cs, rfl, rfl, fun h => nomatch h⟩
    | false =>
      refine ⟨c, cs, rfl, ?_, fun h => nomatch h⟩
      rw [Bool.eq_false_iff]
      intro hblank
      simp [isBlank] at hblank
      rcases hblank with ((rfl | rfl) | rfl) | rfl <;> cases hdigit
  | string s => exact ⟨'"', _, rfl, rfl, fun _ => by decide⟩
  | bool b => cases b <;> exact ⟨_, _, rfl, rfl, fun _ => by decide⟩
  | _ => exact ⟨_, _, rfl, rfl, fun _ => by decide⟩

/-- One of two tokens is not a number. -/
def Apart (t next : Token) : Prop := t.isNumber → next.isNumber = false

end Token

/-! ### Rows of tokens -/

variable {ts : List Token}

/-- Tokens that do not begin with a number end one. -/
theorem endsNumber_flatMap_written (h : ∀ t ∈ ts.head?, t.isNumber = false) :
    EndsNumber (ts.flatMap Token.written) := by
  cases ts with
  | nil => exact fun c hc => nomatch hc
  | cons t ts =>
    obtain ⟨c, cs, hwritten, -, hother⟩ := t.exists_written_eq_cons
    rw [List.flatMap_cons, hwritten]
    rintro _ ⟨⟩
    exact hother (h t rfl)

/-- Every token takes a character at least, so there is fuel enough. -/
theorem length_le_length_flatMap_written (ts : List Token) :
    ts.length ≤ (ts.flatMap Token.written).length := by
  induction ts with
  | nil => exact Nat.zero_le _
  | cons t ts ih =>
    obtain ⟨c, cs, hwritten, -⟩ := t.exists_written_eq_cons
    rw [List.flatMap_cons, hwritten, List.length_cons, List.length_append, List.length_cons]
    omega

/-- **A row of tokens is read back** with enough fuel, if no two numbers are neighbours. -/
theorem scanAll?_flatMap_written (h : ts.IsChain Token.Apart) {fuel : Nat}
    (hfuel : ts.length ≤ fuel) : scanAll? fuel (ts.flatMap Token.written) = some ts := by
  induction ts generalizing fuel with
  | nil => cases fuel <;> rfl
  | cons t ts ih =>
    obtain ⟨c, cs, hwritten, hblank, -⟩ := t.exists_written_eq_cons
    obtain ⟨hnext, hchain⟩ := List.isChain_cons.1 h
    obtain ⟨fuel, rfl⟩ := Nat.exists_eq_add_of_le' (Nat.one_le_of_lt hfuel)
    have hscan : Token.scan? (t.written ++ ts.flatMap Token.written) =
        some (t, ts.flatMap Token.written) :=
      Token.scan?_written fun hnumber => endsNumber_flatMap_written fun next hmem =>
        hnext next hmem hnumber
    have hrest := ih hchain (Nat.le_of_succ_le_succ hfuel)
    rw [hwritten, List.cons_append] at hscan
    rw [List.flatMap_cons, hwritten, List.cons_append, scanAll?,
      List.dropWhile_cons_of_neg (by simp [hblank])]
    simp only [hscan, hrest, Option.bind_eq_bind, Option.bind_some]
    rfl

/-- **So the tokens of a text are the row that it was written from.** -/
theorem tokens?_flatMap_written (h : ts.IsChain Token.Apart) :
    tokens? (ts.flatMap Token.written) = some ts :=
  scanAll?_flatMap_written h (length_le_length_flatMap_written ts)

end Json
end RecordQuery
