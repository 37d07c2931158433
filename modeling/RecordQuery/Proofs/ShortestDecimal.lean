/-
# A decimal that is read back

The shortest decimal of a number is found by reading candidates, so what is found reads
back because it was asked (`Binary64.readsBack_of_onGrid?`).  Two things are left.  The
zeros at its end are dropped, and the number nearest to a decimal does not change with
them: it is the nearest one to a ratio, and depends on no more than the ratio
(`Binary64.ofRatio_mul_left`, `Binary64.ofDecimal_mul_pow`).  And if no candidate was found,
the exact value of the number is taken, which is nearest to itself
(`Binary64.magnitude_ofRatio_units`); it is neither so large nor so small that reading would
give up on it.

Hence `Binary64.ofDecimal_shortest`: every finite number but zero is read back from its
shortest decimal, whichever of two equally near ones is taken.
-/

import RecordQuery.Number.Shortest
import RecordQuery.Proofs.Truncation

namespace RecordQuery
namespace Binary64

variable {x y : Binary64} {negative : Bool}

/-- A number is its sign and its magnitude. -/
theorem eq_of_magnitude_eq (hnegative : x.negative = y.negative)
    (hmagnitude : x.magnitude = y.magnitude) : x = y := by
  have hbits : ∀ z : Binary64, z.bits.toNat = z.magnitude + if z.negative then 2 ^ 63 else 0 := by
    intro z
    have hlt := z.bits.toNat_lt
    simp only [magnitude, Binary64.negative, decide_eq_true_eq]
    split <;> omega
  have hx := hbits x
  rw [hnegative, hmagnitude, ← hbits y] at hx
  obtain ⟨bits⟩ := x
  obtain ⟨bits'⟩ := y
  exact congrArg mk (UInt64.toNat_inj.1 hx)

/-! ### The nearest number to a ratio -/

/-- Rounding a quotient depends on the ratio alone. -/
theorem roundHalfEven_mul_left {c : Nat} (hc : 0 < c) (a b : Nat) :
    roundHalfEven (c * a) (c * b) = roundHalfEven a b := by
  have hquotient : c * a / (c * b) = a / b := Nat.mul_div_mul_left _ _ hc
  have hremainder : 2 * (c * a % (c * b)) = c * (2 * (a % b)) := by
    rw [Nat.mul_mod_mul_left, Nat.mul_left_comm]
  simp only [roundHalfEven, hquotient, hremainder, Nat.mul_lt_mul_left hc]

/-- A whole number is not rounded. -/
theorem roundHalfEven_mul (a : Nat) {b : Nat} (hb : 0 < b) : roundHalfEven (a * b) b = a := by
  simp [roundHalfEven, Nat.mul_div_cancel _ hb, Nat.mul_mod_left, hb]

/-- **The nearest number to a ratio depends on the ratio alone.** -/
theorem ofRatio_mul_left {c : Nat} (hc : 0 < c) (num den : Nat) :
    ofRatio negative (c * num) (c * den) = ofRatio negative num den := by
  have hscaled : c * num * unitsPerOne = c * (num * unitsPerOne) := Nat.mul_assoc ..
  have hden : ∀ q, c * den * 2 ^ q = c * (den * 2 ^ q) := fun q => Nat.mul_assoc ..
  simp only [ofRatio, hscaled, hden, Nat.mul_div_mul_left _ _ hc, roundHalfEven_mul_left hc]

/-- A finite number has less than the largest scale. -/
theorem scale_lt (h : x.isFinite) : x.scale < 2046 := by
  have hmagnitude : x.magnitude < 0x7FF0000000000000 := of_decide_eq_true h
  unfold scale
  omega

/-- The scale of a number is the one at which its units are rounded. -/
theorem scaleFor_units (x : Binary64) : scaleFor x.units = x.scale := by
  have hlt := x.significand_lt
  rcases Nat.eq_zero_or_pos x.scale with hscale | hscale
  · have hunits : x.units = x.significand := by rw [units, hscale, Nat.pow_zero, Nat.mul_one]
    rw [scaleFor, hunits, if_pos hlt, hscale]
  · have hle := le_significand hscale
    have hlow : 2 ^ (52 + x.scale) ≤ x.units := by
      rw [units, Nat.pow_add]
      exact Nat.mul_le_mul_right _ hle
    have hhigh : x.units < 2 ^ (53 + x.scale) := by
      rw [units, Nat.pow_add]
      exact Nat.mul_lt_mul_of_pos_right hlt (Nat.two_pow_pos _)
    have hlarge : 2 ^ 53 ≤ x.units :=
      Nat.le_trans (Nat.pow_le_pow_right (by decide) (by omega)) hlow
    have hlog : x.units.log2 = 52 + x.scale := by
      have hne : x.units ≠ 0 := by omega
      exact (Nat.log2_eq_iff hne).2 ⟨hlow, by rwa [show 52 + x.scale + 1 = 53 + x.scale by omega]⟩
    rw [scaleFor, if_neg (by omega), hlog]
    omega

/-- **A number is the nearest one to its exact value.** -/
theorem magnitude_ofRatio_units (h : x.isFinite) :
    (ofRatio negative x.units unitsPerOne).magnitude = x.magnitude := by
  have hround : roundHalfEven (x.units * unitsPerOne) (unitsPerOne * 2 ^ x.scale) =
      x.significand := by
    rw [Nat.mul_comm x.units, roundHalfEven_mul_left unitsPerOne_pos, units,
      roundHalfEven_mul _ (Nat.two_pow_pos _)]
  have hfinite : x.magnitude < infinityBits := of_decide_eq_true h
  rw [ofRatio, magnitude_ofMagnitude (min_infinityBits_lt _), Nat.mul_div_cancel _ unitsPerOne_pos,
    scaleFor_units, hround, ← magnitude_eq]
  omega

/-! ### The nearest number to a decimal -/

/-- A zero at the end is one digit more. -/
theorem decimalLength_mul_ten {m : Nat} (h : 0 < m) :
    decimalLength (10 * m) = decimalLength m + 1 := by
  have happend : Nat.toDigits 10 m ++ Nat.toDigits 10 0 = Nat.toDigits 10 (10 * m + 0) :=
    Nat.toDigits_append_toDigits (by decide) h (by decide)
  rw [decimalLength, ← Nat.add_zero (10 * m), ← happend, List.length_append]
  rfl

/-- A zero at the end of the digits is a larger exponent. -/
theorem ofDecimal_mul_ten (m : Nat) (e : Int) :
    ofDecimal negative (10 * m) e = ofDecimal negative m (e + 1) := by
  rcases Nat.eq_zero_or_pos m with rfl | hm
  · simp only [ofDecimal, Nat.mul_zero, if_pos]
  · have htop : e + (decimalLength (10 * m) : Int) = e + 1 + decimalLength m := by
      rw [decimalLength_mul_ten hm]
      omega
    have hratio : (if 0 ≤ e then ofRatio negative (10 * m * 10 ^ e.toNat) 1
          else ofRatio negative (10 * m) (10 ^ (-e).toNat)) =
        if 0 ≤ e + 1 then ofRatio negative (m * 10 ^ (e + 1).toNat) 1
          else ofRatio negative m (10 ^ (-(e + 1)).toNat) := by
      rcases Int.lt_trichotomy e (-1) with he | rfl | he
      · -- The exponent stays negative: numerator and denominator lose a factor of ten.
        have hexponent : (-e).toNat = (-(e + 1)).toNat + 1 := by omega
        rw [if_neg (show ¬0 ≤ e by omega), if_neg (show ¬0 ≤ e + 1 by omega), hexponent,
          Nat.pow_succ', ofRatio_mul_left (by decide)]
      · have htenth : ofRatio negative (10 * m) (10 * 1) = ofRatio negative m 1 :=
          ofRatio_mul_left (by decide) m 1
        simpa using htenth
      · have hexponent : (e + 1).toNat = e.toNat + 1 := by omega
        rw [if_pos (show 0 ≤ e by omega), if_pos (show 0 ≤ e + 1 by omega), hexponent,
          Nat.pow_succ', Nat.mul_comm 10 m, Nat.mul_assoc]
    have hne : 10 * m ≠ 0 := by omega
    have hne' : m ≠ 0 := by omega
    simp only [ofDecimal, if_neg hne, if_neg hne', htop, hratio]

/-- **The nearest number to a decimal does not depend on the zeros at its end.** -/
theorem ofDecimal_mul_pow (m k : Nat) (e : Int) :
    ofDecimal negative (m * 10 ^ k) e = ofDecimal negative m (e + k) := by
  induction k generalizing e with
  | zero => simp
  | succ k ih =>
    have hdigits : m * 10 ^ (k + 1) = 10 * (m * 10 ^ k) := by
      rw [Nat.pow_succ', Nat.mul_left_comm]
    rw [hdigits, ofDecimal_mul_ten, ih]
    congr 1
    omega

/-- Dropping zeros at the end changes no number. -/
theorem ofDecimal_trimZeros (fuel : Nat) (d : Decimal) :
    ofDecimal negative (d.trimZeros fuel).digits (d.trimZeros fuel).exponent =
      ofDecimal negative d.digits d.exponent := by
  induction fuel generalizing d with
  | zero => rfl
  | succ fuel ih =>
    rw [Decimal.trimZeros]
    split
    · rename_i hzero
      have hdigits : d.digits = 10 * (d.digits / 10) := by omega
      rw [ih, ← ofDecimal_mul_ten, ← hdigits]
    · rfl

/-- A decimal is read with its sign. -/
theorem negative_ofDecimal (m : Nat) (e : Int) : (ofDecimal negative m e).negative = negative := by
  unfold ofDecimal
  dsimp only
  split
  · exact negative_ofMagnitude (by decide)
  · split
    · exact negative_ofMagnitude (by decide)
    · split
      · exact negative_ofMagnitude (by decide)
      · split <;> exact negative_ofRatio ..

/-- The sign has no part in the magnitude. -/
theorem magnitude_ofDecimal (m : Nat) (e : Int) :
    (ofDecimal negative m e).magnitude = (ofDecimal false m e).magnitude := by
  have hmagnitude : ∀ {n}, n < 2 ^ 63 → (ofMagnitude negative n).magnitude =
      (ofMagnitude false n).magnitude := fun h => by
    rw [magnitude_ofMagnitude h, magnitude_ofMagnitude h]
  unfold ofDecimal
  dsimp only
  split
  · exact hmagnitude (by decide)
  · split
    · exact hmagnitude (by decide)
    · split
      · exact hmagnitude (by decide)
      · split <;> exact hmagnitude (min_infinityBits_lt _)

/-! ### The exact value -/

/-- A finite number is less than `2^1024`, in whichever factors its units are counted. -/
theorem units_lt (h : x.isFinite) {a b : Nat} (hab : a + b = 2098) : x.units < 2 ^ a * 2 ^ b := by
  have hscale := scale_lt h
  calc x.units < 2 ^ 53 * 2 ^ x.scale :=
        Nat.mul_lt_mul_of_pos_right x.significand_lt (Nat.two_pow_pos _)
    _ = 2 ^ (53 + x.scale) := (Nat.pow_add ..).symm
    _ ≤ 2 ^ (a + b) := Nat.pow_le_pow_right (by decide) (by omega)
    _ = 2 ^ a * 2 ^ b := Nat.pow_add ..

/-- A decimal with `k` places after the point, if it is neither so large nor so small that
reading would give up on it. -/
theorem ofDecimal_neg {m k : Nat} (hm : m ≠ 0) (hk : 0 < k) (hlow : k ≤ decimalLength m + 330)
    (hhigh : decimalLength m ≤ k + 310) :
    ofDecimal negative m (-k) = ofRatio negative m (10 ^ k) := by
  have hexponent : (-(-(k : Int))).toNat = k := by omega
  simp only [ofDecimal, if_neg hm, hexponent]
  rw [if_neg (by omega), if_neg (by omega), if_neg (by omega)]

/-- **The exact decimal of a number is read back.**  It has `1074` places after the point and
not more than `309` digits before it. -/
theorem magnitude_ofDecimal_exact (h : x.isFinite) (hzero : x.magnitude ≠ 0) {k : Nat}
    (hk : k = 1074) : (ofDecimal negative (x.units * 5 ^ k) (-k)).magnitude = x.magnitude := by
  have hunits : 0 < x.units := Nat.pos_of_ne_zero (units_eq_zero_iff.not.2 hzero)
  have hfive : 0 < 5 ^ k := Nat.pow_pos (by decide)
  have htens : 10 ^ k = 5 ^ k * 2 ^ k := (Nat.mul_pow 5 2 k)
  have hlow : 744 < decimalLength (x.units * 5 ^ k) := by
    refine Nat.lt_of_not_le fun hshort => ?_
    have hsmall := (Nat.length_toDigits_le_iff (by decide) (by decide)).1 hshort
    have hlarge : 10 ^ 744 ≤ 5 ^ k := by
      rw [hk]
      decide +kernel
    have hmul : 5 ^ k ≤ x.units * 5 ^ k := Nat.le_mul_of_pos_left _ hunits
    exact Nat.lt_irrefl _ (Nat.lt_of_le_of_lt (Nat.le_trans hlarge hmul) hsmall)
  have hhigh : decimalLength (x.units * 5 ^ k) ≤ 309 + k := by
    refine (Nat.length_toDigits_le_iff (by decide) (by omega)).2 ?_
    obtain ⟨a, ha⟩ : ∃ a, a = 1024 := ⟨_, rfl⟩
    obtain ⟨b, hb⟩ : ∃ b, b = 309 := ⟨_, rfl⟩
    have hpow : 2 ^ a ≤ 10 ^ b := by
      rw [ha, hb]
      decide +kernel
    rw [← hb]
    calc x.units * 5 ^ k < 2 ^ a * 2 ^ k * 5 ^ k :=
          Nat.mul_lt_mul_of_pos_right (units_lt h (by omega)) hfive
      _ = 2 ^ a * 10 ^ k := by rw [Nat.mul_assoc, Nat.mul_comm (2 ^ k), htens]
      _ ≤ 10 ^ b * 10 ^ k := Nat.mul_le_mul_right _ hpow
      _ = 10 ^ (b + k) := (Nat.pow_add ..).symm
  have hone : unitsPerOne = 2 ^ k := by rw [hk, unitsPerOne]
  have hne : x.units * 5 ^ k ≠ 0 := Nat.ne_of_gt (Nat.mul_pos hunits hfive)
  rw [ofDecimal_neg hne (by omega) (by omega) (by omega), htens, Nat.mul_comm x.units,
    ofRatio_mul_left hfive, ← hone, magnitude_ofRatio_units h]

/-! ### The shortest decimal -/

/-- A decimal that is chosen out of two for reading back does read back. -/
theorem readsBack_of_choice {below above d : Decimal} {takeHigh : Bool}
    (h : (match x.readsBack below, x.readsBack above with
      | true, true => some (if takeHigh then above else below)
      | true, false => some below
      | false, true => some above
      | false, false => none) = some d) : x.readsBack d := by
  split at h
  · rename_i hbelow habove
    cases takeHigh with
    | true => exact Option.some.inj h ▸ habove
    | false => exact Option.some.inj h ▸ hbelow
  · rename_i hbelow _
    exact Option.some.inj h ▸ hbelow
  · rename_i _ habove
    exact Option.some.inj h ▸ habove
  · cases h

/-- What is found on a grid of decimals reads back, since it was asked. -/
theorem readsBack_of_onGrid? {tie : Tie} {place : Int} {d : Decimal}
    (h : x.onGrid? tie place = some d) : x.readsBack d :=
  readsBack_of_choice h

/-- **Every finite number but zero is read back from its shortest decimal.** -/
theorem ofDecimal_shortest (h : x.isFinite) (hzero : x.magnitude ≠ 0) (tie : Tie) :
    ofDecimal x.negative (x.shortest tie).digits (x.shortest tie).exponent = x := by
  refine eq_of_magnitude_eq (negative_ofDecimal _ _) ?_
  rw [shortest, ofDecimal_trimZeros, magnitude_ofDecimal]
  cases hfound : (List.range 17).findSome? fun (n : Nat) =>
      x.onGrid? tie (x.leadingExponent - n) with
  | none => exact magnitude_ofDecimal_exact (k := 1074) h hzero rfl
  | some d =>
    obtain ⟨n, -, hgrid⟩ := List.exists_of_findSome?_eq_some hfound
    exact of_decide_eq_true (readsBack_of_onGrid? hgrid)

/-- The shortest decimal of a number that is not zero has digits. -/
theorem digits_shortest_pos (h : x.isFinite) (hzero : x.magnitude ≠ 0) (tie : Tie) :
    0 < (x.shortest tie).digits := by
  refine Nat.pos_of_ne_zero fun hdigits => hzero ?_
  have hread := ofDecimal_shortest h hzero tie
  rw [hdigits, ofDecimal, if_pos rfl] at hread
  rw [← hread]
  exact magnitude_ofMagnitude (by decide)

end Binary64
end RecordQuery
