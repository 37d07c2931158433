/-
# The parts of a number are read back

Reading a number takes the longest row of digits each time: for the whole part, the fraction
and the exponent.  So each of these parts is taken as it was written as long as what follows
can not be part of the number (`Json.EndsNumber`), and what is read is the number nearest to
the decimal that the parts make up (`Json.scanNumber?_point`, `Json.scanNumber?_exponent`).
-/

import RecordQuery.Json.Token
import RecordQuery.Proofs.ShortestDecimal

namespace RecordQuery
namespace Json

open Binary64

variable {ds rest : List Char}

/-! ### Digits -/

/-- The digits are the usual ones. -/
theorem isDigit_eq (c : Char) : isDigit c = c.isDigit := by
  rw [Bool.eq_iff_iff, isDigit, Char.isDigit]
  simp [Char.le_def]

/-- The digits of a number are digits. -/
theorem isDigit_of_mem_toDigits {n : Nat} {c : Char} (h : c ∈ Nat.toDigits 10 n) : isDigit c := by
  rw [isDigit_eq]
  exact Nat.isDigit_of_mem_toDigits (by decide) (by decide) h

/-- Digits have the usual value. -/
theorem digitsValue_eq (ds : List Char) : digitsValue ds = Nat.ofDigitChars 10 ds 0 :=
  Nat.ofDigitChars_eq_foldl.symm

/-- The digits of a number have the number as their value. -/
theorem digitsValue_toDigits (n : Nat) : digitsValue (Nat.toDigits 10 n) = n := by
  rw [digitsValue_eq, Nat.ofDigitChars_ten_toDigits]

/-- Zeros behind the digits count for a power of ten. -/
theorem digitsValue_append_zeros (ds : List Char) (k : Nat) :
    digitsValue (ds ++ List.replicate k '0') = digitsValue ds * 10 ^ k := by
  rw [digitsValue_eq, digitsValue_eq, Nat.ofDigitChars_append, Nat.ofDigitChars_replicate_zero,
    Nat.mul_comm]

/-- Zeros in front of the digits count for nothing. -/
theorem digitsValue_zeros_append (k : Nat) (ds : List Char) :
    digitsValue (List.replicate k '0' ++ ds) = digitsValue ds := by
  rw [digitsValue_eq, digitsValue_eq, Nat.ofDigitChars_append, Nat.ofDigitChars_replicate_zero,
    Nat.mul_zero]

/-- No number but zero begins with the digit zero. -/
theorem head?_toDigits_ne {n : Nat} (h : 0 < n) : (Nat.toDigits 10 n).head? ≠ some '0' := by
  induction n using Nat.strongRecOn with
  | ind n ih =>
    rw [Nat.toDigits_eq_if (by decide)]
    split
    · rw [List.head?_cons, Ne, Option.some.injEq, Nat.digitChar_eq_zero]
      omega
    · have hfirst := ih (n / 10) (by omega) (by omega)
      have hne : Nat.toDigits 10 (n / 10) ≠ [] := Nat.toDigits_ne_nil
      obtain ⟨c, ds, hds⟩ := List.exists_cons_of_ne_nil hne
      rw [hds] at hfirst ⊢
      exact hfirst

/-! ### The parts of a number -/

/-- No digit comes next. -/
def NoDigit (rest : List Char) : Prop := ∀ c ∈ rest.head?, isDigit c = false

/-- What comes next can not be a part of a number. -/
def EndsNumber (rest : List Char) : Prop :=
  ∀ c ∈ rest.head?, isDigit c = false ∧ c ≠ '.' ∧ c ≠ 'e' ∧ c ≠ 'E'

/-- A whole part: digits, and no zero in front of others. -/
structure IsWhole (ds : List Char) : Prop where
  ne_nil : ds ≠ []
  isDigit : ∀ c ∈ ds, isDigit c
  eq_zero : ds.head? = some '0' → ds = ['0']

/-- What ends a number is no digit in particular. -/
theorem EndsNumber.noDigit (h : EndsNumber rest) : NoDigit rest := fun c hc => (h c hc).1

/-- Nothing but the next character counts. -/
theorem noDigit_cons {c : Char} (h : isDigit c = false) (rest : List Char) :
    NoDigit (c :: rest) := by
  rintro _ ⟨⟩
  exact h

/-- The digits of a positive number are a whole part. -/
theorem isWhole_toDigits {n : Nat} (h : 0 < n) : IsWhole (Nat.toDigits 10 n) where
  ne_nil := Nat.toDigits_ne_nil
  isDigit _ := isDigit_of_mem_toDigits
  eq_zero hzero := absurd hzero (head?_toDigits_ne h)

/-- Digits are taken up to what follows them. -/
theorem takeWhile_isDigit (hds : ∀ c ∈ ds, isDigit c) (hrest : NoDigit rest) :
    (ds ++ rest).takeWhile isDigit = ds := by
  rw [List.takeWhile_append_of_pos hds]
  cases rest with
  | nil => simp
  | cons c rest => rw [List.takeWhile_cons_of_neg (by simp [hrest c rfl]), List.append_nil]

/-- What follows the digits is left. -/
theorem dropWhile_isDigit (hds : ∀ c ∈ ds, isDigit c) (hrest : NoDigit rest) :
    (ds ++ rest).dropWhile isDigit = rest := by
  rw [List.dropWhile_append_of_pos hds]
  cases rest with
  | nil => rfl
  | cons c rest => rw [List.dropWhile_cons_of_neg (by simp [hrest c rfl])]

/-- A whole part is read back. -/
theorem scanWhole?_append (hds : IsWhole ds) (hrest : NoDigit rest) :
    scanWhole? (ds ++ rest) = some (ds, rest) := by
  rw [scanWhole?, takeWhile_isDigit hds.isDigit hrest, dropWhile_isDigit hds.isDigit hrest]
  split
  · exact absurd rfl hds.ne_nil
  · have hzero := hds.eq_zero rfl
    simp at hzero
  · rfl

/-- A fraction is read back with the point before it. -/
theorem scanFraction?_point (hne : ds ≠ []) (hds : ∀ c ∈ ds, isDigit c) (hrest : NoDigit rest) :
    scanFraction? ('.' :: (ds ++ rest)) = some (ds, rest) := by
  rw [scanFraction?, takeWhile_isDigit hds hrest, dropWhile_isDigit hds hrest]
  split
  · exact absurd rfl hne
  · rfl

/-- Without a point there is no fraction. -/
theorem scanFraction?_of_head?_ne (h : rest.head? ≠ some '.') :
    scanFraction? rest = some ([], rest) := by
  unfold scanFraction?
  split
  · exact absurd rfl h
  · rfl

/-- Without its letter there is no exponent. -/
theorem scanExponent?_of_head?_ne (h : ∀ c ∈ rest.head?, c ≠ 'e' ∧ c ≠ 'E') :
    scanExponent? rest = some (none, rest) := by
  cases rest with
  | nil => rfl
  | cons c rest =>
    obtain ⟨hlower, hupper⟩ := h c rfl
    unfold scanExponent?
    exact if_neg (not_or.2 ⟨hlower, hupper⟩)

/-- A negative exponent is read back. -/
theorem scanExponent?_minus (hne : ds ≠ []) (hds : ∀ c ∈ ds, isDigit c) (hrest : NoDigit rest) :
    scanExponent? ('e' :: '-' :: (ds ++ rest)) = some (some (-(digitsValue ds : Int)), rest) := by
  unfold scanExponent?
  simp only [true_or, if_true, takeWhile_isDigit hds hrest, dropWhile_isDigit hds hrest]

/-- So is one with a plus sign. -/
theorem scanExponent?_plus (hne : ds ≠ []) (hds : ∀ c ∈ ds, isDigit c) (hrest : NoDigit rest) :
    scanExponent? ('e' :: '+' :: (ds ++ rest)) = some (some (digitsValue ds : Int), rest) := by
  unfold scanExponent?
  simp only [true_or, if_true, takeWhile_isDigit hds hrest, dropWhile_isDigit hds hrest]
  simp

/-! ### Numbers with a point or an exponent -/

variable {negative : Bool} {whole fraction : List Char} {d : Decimal}

/-- A number with a point and no exponent. -/
theorem scanNumber?_point (hwhole : IsWhole whole) (hne : fraction ≠ [])
    (hfraction : ∀ c ∈ fraction, isDigit c) (hrest : EndsNumber rest) :
    scanNumber? negative (whole ++ '.' :: (fraction ++ rest)) =
      (finite? (ofDecimal negative (digitsValue (whole ++ fraction)) (-fraction.length))).map
        (·, rest) := by
  have hempty : fraction.isEmpty = false := by simpa using hne
  rw [scanNumber?, scanWhole?_append hwhole (noDigit_cons rfl _)]
  simp only [Option.bind_eq_bind, Option.bind_some]
  rw [scanFraction?_point hne hfraction hrest.noDigit]
  simp only [Option.bind_some]
  rw [scanExponent?_of_head?_ne fun c hc => (hrest c hc).2.2]
  simp only [Option.bind_some, hempty, Bool.false_and, Bool.false_eq_true, if_false,
    Option.getD_none, Int.zero_sub]
  cases finite? (ofDecimal negative (digitsValue (whole ++ fraction)) (-fraction.length)) <;> rfl

/-- A number with an exponent, and with a point if there are digits after it. -/
theorem scanNumber?_exponent (hwhole : IsWhole whole) (hfraction : ∀ c ∈ fraction, isDigit c)
    (e : Int) (hrest : EndsNumber rest) :
    scanNumber? negative (whole ++ ((if fraction.isEmpty then [] else '.' :: fraction) ++
        'e' :: (if e < 0 then '-' else '+') :: (Nat.toDigits 10 e.natAbs ++ rest))) =
      (finite? (ofDecimal negative (digitsValue (whole ++ fraction)) (e - fraction.length))).map
        (·, rest) := by
  obtain ⟨after, hafter⟩ : ∃ after, after =
    'e' :: (if e < 0 then '-' else '+') :: (Nat.toDigits 10 e.natAbs ++ rest) := ⟨_, rfl⟩
  have hdigits : ∀ c ∈ Nat.toDigits 10 e.natAbs, isDigit c := fun _ => isDigit_of_mem_toDigits
  have hexponent : scanExponent? after = some (some e, rest) := by
    rw [hafter]
    split
    · rw [scanExponent?_minus Nat.toDigits_ne_nil hdigits hrest.noDigit, digitsValue_toDigits]
      congr 3
      omega
    · rw [scanExponent?_plus Nat.toDigits_ne_nil hdigits hrest.noDigit, digitsValue_toDigits]
      congr 3
      omega
  have hparts : ∃ next, scanWhole? (whole ++
      ((if fraction.isEmpty then [] else '.' :: fraction) ++ after)) = some (whole, next) ∧
        scanFraction? next = some (fraction, after) := by
    cases fraction with
    | nil =>
      refine ⟨after, scanWhole?_append hwhole ?_, scanFraction?_of_head?_ne ?_⟩
      · exact hafter ▸ noDigit_cons rfl _
      · rw [hafter]
        exact fun h => absurd h (by simp)
    | cons c fraction =>
      refine ⟨_, scanWhole?_append hwhole (noDigit_cons rfl _),
        scanFraction?_point (List.cons_ne_nil _ _) hfraction ?_⟩
      exact hafter ▸ noDigit_cons rfl _
  obtain ⟨next, hnext, hfraction⟩ := hparts
  rw [← hafter, scanNumber?, hnext]
  simp only [Option.bind_eq_bind, Option.bind_some, hfraction, hexponent, Option.isNone_some,
    Bool.and_false, Bool.false_eq_true, if_false, Option.getD_some]
  cases finite? (ofDecimal negative (digitsValue (whole ++ fraction)) (e - fraction.length)) <;> rfl

end Json
end RecordQuery
