/-
# Cutting off a fraction, and what was cut off

A finite number is a whole count of units of `2^-1074`, so cutting off its fraction
is a division with remainder by the number of units in one
(`Binary64.signedUnits_truncate`).  The quotient fits into 128 bits wherever a
64-bit integer is compared with the number (`Binary64.toInt128_truncate`).

What was cut off is a difference of two numbers, which is rounded.  Rounding can
change its size but not its sign, since a difference that is not zero is at least
one unit (`Binary64.compare?_sub_zero`).
-/

import Mathlib.Logic.Basic
import RecordQuery.Number.Order

namespace RecordQuery
namespace Binary64

variable {x y : Binary64}

/-! ### The parts of a number -/

/-- There are units in one. -/
theorem unitsPerOne_pos : 0 < unitsPerOne := by decide +kernel

/-- The magnitude is what is left of 64 bits without the sign. -/
theorem magnitude_lt (x : Binary64) : x.magnitude < 2 ^ 63 := Nat.mod_lt _ (by decide)

/-- The significand has 53 bits. -/
theorem significand_lt (x : Binary64) : x.significand < 2 ^ 53 := by
  unfold significand
  split <;> omega

/-- Above the least scale, the significand has its leading bit. -/
theorem le_significand (h : 0 < x.scale) : 2 ^ 52 ≤ x.significand := by
  unfold scale at h
  unfold significand
  split <;> omega

/-- **Scale and significand can be read off a magnitude,** if the significand has its
leading bit or the scale is the least one. -/
theorem scale_significand_of_magnitude {q m : Nat} (h : x.magnitude = q * 2 ^ 52 + m)
    (hm : m < 2 ^ 53) (hq : q = 0 ∨ 2 ^ 52 ≤ m) : x.scale = q ∧ x.significand = m := by
  unfold scale significand
  rw [h]
  constructor
  · omega
  · split <;> omega

section

variable {negative : Bool} {magnitude : Nat} (h : magnitude < 2 ^ 63)
include h

/-- The sign is the bit above the magnitude. -/
theorem toNat_bits_ofMagnitude : (ofMagnitude negative magnitude).bits.toNat =
    magnitude + if negative then 2 ^ 63 else 0 := by
  rw [ofMagnitude, UInt64.toNat_ofNat']
  split <;> omega

/-- The magnitude can be read off again. -/
theorem magnitude_ofMagnitude : (ofMagnitude negative magnitude).magnitude = magnitude := by
  rw [Binary64.magnitude, toNat_bits_ofMagnitude h]
  split <;> omega

/-- So can the sign. -/
theorem negative_ofMagnitude : (ofMagnitude negative magnitude).negative = negative := by
  rw [Binary64.negative, toNat_bits_ofMagnitude h]
  cases negative
  · simpa using h
  · simp

end

/-- A number has no units just if its magnitude is zero. -/
theorem units_eq_zero_iff : x.units = 0 ↔ x.magnitude = 0 := by
  have hparts := x.magnitude_eq
  have hscale : 0 < x.scale → 2 ^ 52 ≤ x.significand := le_significand
  have hpow := Nat.two_pow_pos x.scale
  rw [units, Nat.mul_eq_zero]
  omega

/-- What is finite is a number. -/
theorem isNaN_eq_false_of_isFinite (h : x.isFinite) : x.isNaN = false := by
  simp only [isNaN, isFinite, decide_eq_true_eq, decide_eq_false_iff_not] at h ⊢
  omega

/-- What is not a number has no place. -/
theorem place?_of_isNaN (h : x.isNaN) : x.place? = none := if_pos h

/-- A finite number has its place among the integers. -/
theorem place?_of_isFinite (h : x.isFinite) : x.place? = some (.finite x.signedUnits) := by
  simp [place?, h, isNaN_eq_false_of_isFinite h]

/-! ### Cutting off -/

/-- The units in one, as a product of two powers. -/
theorem unitsPerOne_eq {a b : Nat} (h : a + b = 1074) : unitsPerOne = 2 ^ a * 2 ^ b := by
  rw [unitsPerOne, ← Nat.pow_add, h]

/-- Below the scale of one, a number is less than one. -/
theorem units_lt_unitsPerOne (h : x.scale < 1022) : x.units < unitsPerOne := by
  rw [unitsPerOne_eq (show (53 + x.scale) + (1021 - x.scale) = 1074 by omega), Nat.pow_add, units]
  exact Nat.lt_of_lt_of_le
    (Nat.mul_lt_mul_of_pos_right x.significand_lt (Nat.two_pow_pos _))
    (Nat.le_mul_of_pos_right _ (Nat.two_pow_pos _))

/-- Clearing the last bits of a magnitude leaves a magnitude. -/
theorem cleared_lt (x : Binary64) (k : Nat) : x.magnitude / 2 ^ k * 2 ^ k < 2 ^ 63 :=
  Nat.lt_of_le_of_lt (Nat.div_mul_le_self _ _) x.magnitude_lt

/-- From the scale of one on, clearing bits clears bits of the significand. -/
theorem scale_significand_truncate (h : 1022 ≤ x.scale) :
    x.truncate.scale = x.scale ∧ x.truncate.significand =
      x.significand / 2 ^ (1074 - x.scale) * 2 ^ (1074 - x.scale) := by
  obtain ⟨k, hk⟩ : ∃ k, k = 1074 - x.scale := ⟨_, rfl⟩
  have hsplit : 2 ^ 52 = 2 ^ (52 - k) * 2 ^ k := by rw [← Nat.pow_add]; congr 1; omega
  have hpos : 0 < 2 ^ k := Nat.two_pow_pos k
  have hlow : 2 ^ (52 - k) ≤ x.significand / 2 ^ k :=
    (Nat.le_div_iff_mul_le hpos).2 (hsplit ▸ le_significand (by omega))
  have hcleared : x.magnitude / 2 ^ k * 2 ^ k =
      x.scale * 2 ^ 52 + x.significand / 2 ^ k * 2 ^ k := by
    rw [x.magnitude_eq, hsplit, ← Nat.mul_assoc, Nat.add_comm, Nat.add_mul_div_right _ _ hpos,
      Nat.add_mul, Nat.add_comm]
  have hmagnitude : x.truncate.magnitude = x.scale * 2 ^ 52 + x.significand / 2 ^ k * 2 ^ k := by
    rw [truncate, if_neg (by omega), ← hk, ← hcleared]
    exact magnitude_ofMagnitude (cleared_lt x k)
  rw [← hk]
  refine scale_significand_of_magnitude hmagnitude
    (Nat.lt_of_le_of_lt (Nat.div_mul_le_self _ _) x.significand_lt) (.inr ?_)
  rw [hsplit]
  exact Nat.mul_le_mul_right _ hlow

/-- **Cutting off leaves a multiple of the units in one,** the next one towards
zero. -/
theorem units_truncate (x : Binary64) :
    x.truncate.units = x.units / unitsPerOne * unitsPerOne := by
  by_cases h : x.scale < 1022
  · have hzero : x.truncate.units = 0 := by
      rw [truncate, if_pos h]
      exact units_eq_zero_iff.2 (magnitude_ofMagnitude (by decide))
    rw [hzero, Nat.div_eq_of_lt (units_lt_unitsPerOne h), Nat.zero_mul]
  · obtain ⟨hscale, hsignificand⟩ := scale_significand_truncate (x := x) (by omega)
    rw [units, hscale, hsignificand, units]
    by_cases hfine : x.scale ≤ 1074
    · rw [unitsPerOne_eq (show (1074 - x.scale) + x.scale = 1074 by omega),
        Nat.mul_div_mul_right _ _ (Nat.two_pow_pos _), Nat.mul_assoc]
    · obtain ⟨k, hk⟩ : ∃ k, x.scale = k + 1074 := ⟨x.scale - 1074, by omega⟩
      have hwhole : 2 ^ x.scale = 2 ^ k * unitsPerOne := by rw [hk, Nat.pow_add, unitsPerOne]
      rw [hwhole, ← Nat.mul_assoc, ← Nat.mul_assoc, Nat.mul_div_cancel _ unitsPerOne_pos,
        show 1074 - x.scale = 0 by omega, Nat.pow_zero, Nat.div_one, Nat.mul_one]

/-- Cutting off keeps the sign. -/
theorem negative_truncate (x : Binary64) : x.truncate.negative = x.negative := by
  unfold truncate
  split
  · exact negative_ofMagnitude (by decide)
  · exact negative_ofMagnitude (cleared_lt x _)

/-- Cutting off a fraction makes nothing infinite. -/
theorem isFinite_truncate (h : x.isFinite) : x.truncate.isFinite := by
  have hle : x.truncate.magnitude ≤ x.magnitude := by
    unfold truncate
    split
    · rw [zero, magnitude_ofMagnitude (by decide)]
      exact Nat.zero_le _
    · rw [magnitude_ofMagnitude (cleared_lt x _)]
      exact Nat.div_mul_le_self _ _
  simp only [isFinite, decide_eq_true_eq] at h ⊢
  omega

/-- **Cutting off is division towards zero.** -/
theorem signedUnits_truncate (x : Binary64) :
    x.truncate.signedUnits = x.signedUnits.tdiv unitsPerOne * unitsPerOne := by
  rw [signedUnits, signedUnits, negative_truncate, units_truncate]
  split
  · rw [Int.neg_tdiv, ← Int.ofNat_tdiv, Int.neg_mul, Int.natCast_mul]
  · rw [← Int.ofNat_tdiv, Int.natCast_mul]

/-- **The whole part of a number within the 64-bit integers fits into 128 bits,** so
that nothing is lost. -/
theorem toInt128_truncate (h : x.isFinite) (hlow : -2 ^ 127 ≤ x.signedUnits.tdiv unitsPerOne)
    (hhigh : x.signedUnits.tdiv unitsPerOne < 2 ^ 127) :
    x.truncate.toInt128 = x.signedUnits.tdiv unitsPerOne := by
  have hne : (unitsPerOne : Int) ≠ 0 := by have := unitsPerOne_pos; omega
  simp only [toInt128, place?_of_isFinite (isFinite_truncate h), signedUnits_truncate,
    Int.mul_tdiv_cancel _ hne]
  omega

/-! ### What was cut off -/

/-- A magnitude that is no larger than that of infinity fits into its bits. -/
theorem min_infinityBits_lt (m : Nat) : min infinityBits m < 2 ^ 63 :=
  Nat.lt_of_le_of_lt (Nat.min_le_left _ _) (by decide)

/-- A quotient is rounded to infinity at most, so it is a number. -/
theorem magnitude_ofRatio_le (negative : Bool) (num den : Nat) :
    (ofRatio negative num den).magnitude ≤ infinityBits := by
  rw [ofRatio, magnitude_ofMagnitude (min_infinityBits_lt _)]
  exact Nat.min_le_left _ _

/-- Rounding keeps the sign. -/
theorem negative_ofRatio (negative : Bool) (num den : Nat) :
    (ofRatio negative num den).negative = negative :=
  negative_ofMagnitude (min_infinityBits_lt _)

/-- Rounding does not go below the whole part. -/
theorem div_le_roundHalfEven (a b : Nat) : a / b ≤ roundHalfEven a b := by
  dsimp only [roundHalfEven]
  split
  · exact Nat.le_refl _
  · split <;> omega

/-- What does not fit into a significand is scaled. -/
theorem scaleFor_pos {whole : Nat} (h : 2 ^ 53 ≤ whole) : 0 < scaleFor whole := by
  have hlog : 53 ≤ whole.log2 := (Nat.le_log2 (by omega)).2 h
  rw [scaleFor, if_neg (by omega)]
  omega

/-- A quotient of at least one unit is not rounded to zero. -/
theorem magnitude_ofRatio_pos (negative : Bool) {num den : Nat}
    (h : 0 < num * unitsPerOne / den) : 0 < (ofRatio negative num den).magnitude := by
  rw [ofRatio, magnitude_ofMagnitude (min_infinityBits_lt _), Nat.lt_min]
  refine ⟨by decide, ?_⟩
  by_cases hsmall : num * unitsPerOne / den < 2 ^ 53
  · have hround := div_le_roundHalfEven (num * unitsPerOne) den
    rw [scaleFor, if_pos hsmall, Nat.pow_zero, Nat.mul_one]
    omega
  · have hscale := scaleFor_pos (Nat.le_of_not_lt hsmall)
    omega

/-- Nothing is rounded to zero. -/
theorem magnitude_ofRatio_zero (negative : Bool) (den : Nat) :
    (ofRatio negative 0 den).magnitude = 0 := by
  rw [ofRatio, magnitude_ofMagnitude (min_infinityBits_lt _)]
  simp [scaleFor, roundHalfEven]

/-- **Comparing with zero** looks at the sign, unless there is nothing. -/
theorem compare?_zero {z : Binary64} (hnan : z.isNaN = false) :
    z.compare? (zero false) =
      some (if z.magnitude = 0 then .eq else if z.negative then .lt else .gt) := by
  have hzero : (zero false).place? = some (.finite 0) := by decide +kernel
  simp only [compare?, hzero]
  by_cases hfinite : z.isFinite
  · rw [place?_of_isFinite hfinite]
    refine congrArg some ?_
    by_cases hmagnitude : z.magnitude = 0
    · have hunits : z.signedUnits = 0 := by simp [signedUnits, units_eq_zero_iff.2 hmagnitude]
      rw [if_pos hmagnitude, hunits]
      rfl
    · have hpos : 0 < z.units := Nat.pos_of_ne_zero (units_eq_zero_iff.not.2 hmagnitude)
      rw [if_neg hmagnitude, signedUnits]
      split
      · exact Int.compare_eq_lt.2 (by omega)
      · exact Int.compare_eq_gt.2 (by omega)
  · have hmagnitude : z.magnitude ≠ 0 := fun h => hfinite (by simp [isFinite, h, infinityBits])
    cases hnegative : z.negative <;>
      simp [place?, hnan, hfinite, hnegative, hmagnitude, Extended.compare]

/-- **The sign of a difference is exact,** although the difference is rounded. -/
theorem compare?_sub_zero (x y : Binary64) :
    (x.sub y).compare? (zero false) = some (compare x.signedUnits y.signedUnits) := by
  obtain ⟨units, hunits⟩ : ∃ units, units = x.signedUnits - y.signedUnits := ⟨_, rfl⟩
  have hsub : x.sub y = ofRatio (units < 0) units.natAbs unitsPerOne := by rw [hunits]; rfl
  have hnan : (x.sub y).isNaN = false := by
    rw [hsub]
    simpa [isNaN] using magnitude_ofRatio_le _ _ _
  rw [compare?_zero hnan, hsub, negative_ofRatio]
  refine congrArg some ?_
  by_cases hzero : units = 0
  · have heq : x.signedUnits = y.signedUnits := by omega
    rw [hzero, Int.natAbs_zero, if_pos (magnitude_ofRatio_zero _ _), Int.compare_eq_eq.2 heq]
  · have hpos : (ofRatio (units < 0) units.natAbs unitsPerOne).magnitude ≠ 0 := by
      refine Nat.ne_of_gt (magnitude_ofRatio_pos _ ?_)
      rw [Nat.mul_div_cancel _ unitsPerOne_pos]
      exact Int.natAbs_pos.2 hzero
    rw [if_neg hpos]
    by_cases hless : units < 0
    · rw [decide_eq_true hless, if_pos rfl, Int.compare_eq_lt.2 (by omega)]
    · rw [decide_eq_false hless, if_neg Bool.false_ne_true, Int.compare_eq_gt.2 (by omega)]

end Binary64
end RecordQuery
