/-
# Comparing an integer with a floating-point number

An integer of 64 bits and a floating-point number meet at a 128-bit integer: the number is cut
off, unless it is above or below all these integers, and where the integers are equal it is the
sign of what was cut off that decides.  This is the same as comparing the places of both
(`Binary64.compareInt?_eq`), since cutting off divides with remainder
(`compare_mul_eq_match`), and what is cut off between the cut-offs fits into 128 bits
(`Binary64.tdiv_bounds`).
-/

import Mathlib.Algebra.Order.Ring.Int
import RecordQuery.Proofs.Truncation

namespace RecordQuery

/-- **Comparing with the whole part, and then with what was cut off, is comparing
exactly.** -/
theorem compare_mul_eq_match (n units : Int) {one : Int} (h : 0 < one) :
    compare (n * one) units = match compare n (units.tdiv one) with
      | .eq => compare (units.tdiv one * one) units
      | unequal => unequal := by
  obtain ⟨whole, hwhole⟩ : ∃ whole, whole = units.tdiv one := ⟨_, rfl⟩
  have hparts : whole * one + units.tmod one = units := hwhole ▸ Int.tdiv_mul_add_tmod ..
  have hlow := Int.lt_tmod_of_pos units h
  have hhigh := Int.tmod_lt_of_pos units h
  rw [← hwhole]
  rcases lt_trichotomy n whole with hn | rfl | hn
  · have hstep : (n + 1) * one ≤ whole * one := Int.mul_le_mul_of_nonneg_right hn (by omega)
    rw [Int.add_mul, Int.one_mul] at hstep
    rw [Int.compare_eq_lt.2 hn]
    exact Int.compare_eq_lt.2 (by omega)
  · rw [Int.compare_eq_eq.2 rfl]
  · have hstep : (whole + 1) * one ≤ n * one := Int.mul_le_mul_of_nonneg_right hn (by omega)
    rw [Int.add_mul, Int.one_mul] at hstep
    rw [Int.compare_eq_gt.2 hn]
    exact Int.compare_eq_gt.2 (by omega)

namespace Binary64

variable {x y : Binary64} {p q : Extended} {n : Int}

/-- The upper cut-off is the first power of two above all integers of 64 bits. -/
theorem place?_aboveIntegers :
    aboveIntegers.place? = some (.finite (2 ^ 64 * unitsPerOne)) := by decide +kernel

/-- The lower one is the least of these integers. -/
theorem place?_belowIntegers :
    belowIntegers.place? = some (.finite (-2 ^ 63 * unitsPerOne)) := by decide +kernel

/-- An infinity is at one end or the other. -/
theorem place?_of_infinite (hnan : ¬x.isNaN) (h : ¬x.isFinite) :
    x.place? = some (if x.negative then .negInf else .posInf) := by
  simp [place?, hnan, h]

/-- Two numbers that have places are compared by them. -/
theorem isAtLeast_eq (hx : x.place? = some p) (hy : y.place? = some q) :
    x.isAtLeast y = (p.compare q != .lt) := by
  simp only [isAtLeast, compare?, hx, hy]
  cases p.compare q <;> rfl

/-- They are so for the other test, too. -/
theorem isLess_eq (hx : x.place? = some p) (hy : y.place? = some q) :
    x.isLess y = (p.compare q == .lt) := by
  simp only [isLess, compare?, hx, hy]
  cases p.compare q <;> rfl

/-- A finite number is above the integers if it has units enough. -/
theorem isAtLeast_aboveIntegers (hx : x.isFinite) :
    x.isAtLeast aboveIntegers = decide (2 ^ 64 * (unitsPerOne : Int) ≤ x.signedUnits) := by
  rw [isAtLeast_eq (place?_of_isFinite hx) place?_aboveIntegers, Bool.eq_iff_iff, bne_iff_ne,
    decide_eq_true_iff, ← Int.not_lt]
  exact not_congr Int.compare_eq_lt

/-- It is below them if it has too few. -/
theorem isLess_belowIntegers (hx : x.isFinite) :
    x.isLess belowIntegers = decide (x.signedUnits < -2 ^ 63 * (unitsPerOne : Int)) := by
  rw [isLess_eq (place?_of_isFinite hx) place?_belowIntegers, Bool.eq_iff_iff, beq_iff_eq,
    decide_eq_true_iff]
  exact Int.compare_eq_lt

/-- The whole part of a number between the cut-offs is far within the 128-bit
integers. -/
theorem tdiv_bounds (hx : x.isFinite) (hbelow : ¬x.isLess belowIntegers)
    (habove : ¬x.isAtLeast aboveIntegers) :
    -2 ^ 127 ≤ x.signedUnits.tdiv unitsPerOne ∧ x.signedUnits.tdiv unitsPerOne < 2 ^ 127 := by
  have hone : (0 : Int) < unitsPerOne := Int.ofNat_lt.2 unitsPerOne_pos
  rw [isLess_belowIntegers hx, decide_eq_true_iff, Int.not_lt] at hbelow
  rw [isAtLeast_aboveIntegers hx, decide_eq_true_iff, Int.not_le] at habove
  have hparts := Int.tdiv_mul_add_tmod x.signedUnits unitsPerOne
  have hlow := Int.lt_tmod_of_pos x.signedUnits hone
  have hhigh := Int.tmod_lt_of_pos x.signedUnits hone
  constructor
  · by_contra h
    have hstep : x.signedUnits.tdiv unitsPerOne * unitsPerOne ≤ -2 ^ 127 * unitsPerOne :=
      Int.mul_le_mul_of_nonneg_right (by omega) (Int.le_of_lt hone)
    omega
  · by_contra h
    have hstep : 2 ^ 127 * unitsPerOne ≤ x.signedUnits.tdiv unitsPerOne * unitsPerOne :=
      Int.mul_le_mul_of_nonneg_right (by omega) (Int.le_of_lt hone)
    omega

/-- **An integer of 64 bits and a floating-point number compare by their places.** -/
theorem compareInt?_eq (hn : -2 ^ 63 ≤ n ∧ n < 2 ^ 64) (x : Binary64) :
    x.compareInt? n = x.place?.map (Extended.finite (n * unitsPerOne)).compare := by
  have hone : (0 : Int) < unitsPerOne := Int.ofNat_lt.2 unitsPerOne_pos
  by_cases hnan : x.isNaN
  · rw [compareInt?, if_pos hnan, place?_of_isNaN hnan]
    rfl
  rw [compareInt?, if_neg hnan]
  by_cases hfinite : x.isFinite
  · have hplace := place?_of_isFinite hfinite
    rw [hplace]
    by_cases habove : x.isAtLeast aboveIntegers
    · rw [if_pos habove]
      rw [isAtLeast_aboveIntegers hfinite, decide_eq_true_iff] at habove
      have hless : n * unitsPerOne < 2 ^ 64 * unitsPerOne :=
        Int.mul_lt_mul_of_pos_right hn.2 hone
      exact congrArg some (Int.compare_eq_lt.2 (Int.lt_of_lt_of_le hless habove)).symm
    rw [if_neg habove]
    by_cases hbelow : x.isLess belowIntegers
    · rw [if_pos hbelow]
      rw [isLess_belowIntegers hfinite, decide_eq_true_iff] at hbelow
      have hle : -2 ^ 63 * (unitsPerOne : Int) ≤ n * unitsPerOne :=
        Int.mul_le_mul_of_nonneg_right hn.1 (Int.le_of_lt hone)
      exact congrArg some (Int.compare_eq_gt.2 (Int.lt_of_lt_of_le hbelow hle)).symm
    rw [if_neg hbelow]
    obtain ⟨hlow, hhigh⟩ := tdiv_bounds hfinite hbelow habove
    simp only [toInt128_truncate hfinite hlow hhigh, compare?_sub_zero,
      signedUnits_truncate]
    refine Eq.trans ?_ (congrArg some (compare_mul_eq_match n x.signedUnits hone).symm)
    cases compare n (x.signedUnits.tdiv unitsPerOne) <;> rfl
  · have hplace := place?_of_infinite hnan hfinite
    rw [isAtLeast_eq hplace place?_aboveIntegers, isLess_eq hplace place?_belowIntegers, hplace]
    cases x.negative <;> rfl

end Binary64

end RecordQuery
