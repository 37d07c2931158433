/-
# Numbers compare by their exact values

Every number but what is not a number has an exact value: an integer, a dyadic
rational or an infinity (`Number.value?`).  Comparing numbers of any two storages
compares these values (`Number.compare?_eq_cmp`), although no value is ever formed:
what is compared are places, in units so small that every finite number is a whole
count of them (`Number.compare?_eq_compare`).

So the order of numbers is total and transitive across storages, and having the same
value is an equivalence.
-/

import Mathlib.Algebra.Order.Field.Rat
import Mathlib.Algebra.Order.Ring.Cast
import Mathlib.Algebra.Order.Ring.Int
import Mathlib.Order.WithBot
import RecordQuery.Json.Basic
import RecordQuery.Proofs.MixedOrder

namespace RecordQuery

/-! ### Exact values -/

/-- The rational numbers with an end on either side. -/
abbrev ExtendedRat : Type := WithBot (WithTop ℚ)

/-- A rational number among the extended ones. -/
def ExtendedRat.ofRat (r : ℚ) : ExtendedRat := ((r : WithTop ℚ) : WithBot (WithTop ℚ))

/-- **The value that the bits of a floating-point number denote:** with sign `±`,
significand `m` and scale `q` it is `±m · 2^(q - 1074)`, unless it is infinite or not
a number. -/
def Binary64.value? (x : Binary64) : Option ExtendedRat :=
  if x.isNaN then none
  else if x.isFinite then some (.ofRat
    ((if x.negative then -1 else 1) * x.significand * (2 : ℚ) ^ ((x.scale : ℤ) - 1074)))
  else some (if x.negative then ⊥ else ⊤)

namespace Number

/-- The exact value of a number. -/
def value? : Number → Option ExtendedRat
  | .signed n => some (.ofRat n.toInt)
  | .unsigned n => some (.ofRat n.toNat)
  | .float x => x.value?

/-- Not a number. -/
def isNaN : Number → Bool
  | .float x => x.isNaN
  | _ => false

/-- Where a number stands, in units of `2^-1074`. -/
def place? : Number → Option Extended
  | .signed n => some (.finite (n.toInt * Binary64.unitsPerOne))
  | .unsigned n => some (.finite (n.toNat * Binary64.unitsPerOne))
  | .float x => x.place?

end Number

/-- The value at a place. -/
def Extended.value : Extended → ExtendedRat
  | .negInf => ⊥
  | .finite n => .ofRat (n / Binary64.unitsPerOne)
  | .posInf => ⊤

/-- Rational numbers keep their order among the extended ones. -/
theorem ExtendedRat.ofRat_strictMono : StrictMono ofRat :=
  WithBot.coe_strictMono.comp WithTop.coe_strictMono

/-- All of them are above the lower end. -/
theorem ExtendedRat.bot_lt_ofRat (r : ℚ) : ⊥ < ofRat r := WithBot.bot_lt_coe _

/-- All of them are below the upper end. -/
theorem ExtendedRat.ofRat_lt_top (r : ℚ) : ofRat r < ⊤ :=
  WithBot.coe_lt_coe.2 (WithTop.coe_lt_top r)

/-- **Places are ordered as their values are.** -/
theorem Extended.compare_eq_cmp (p q : Extended) : p.compare q = cmp p.value q.value := by
  have hbot : (⊥ : ExtendedRat) < ⊤ := bot_lt_top
  have hone : (0 : ℚ) < Binary64.unitsPerOne := Nat.cast_pos.2 Binary64.unitsPerOne_pos
  have hmono : StrictMono fun n : ℤ => ExtendedRat.ofRat (n / Binary64.unitsPerOne) :=
    fun a b h => ExtendedRat.ofRat_strictMono
      ((div_lt_div_iff_of_pos_right hone).2 (Int.cast_lt.2 h))
  symm
  cases p with
  | negInf =>
    cases q with
    | negInf => exact cmp_self_eq_eq _
    | finite b => exact (cmp_eq_lt_iff _ _).2 (ExtendedRat.bot_lt_ofRat _)
    | posInf => exact (cmp_eq_lt_iff _ _).2 hbot
  | finite a =>
    cases q with
    | negInf => exact (cmp_eq_gt_iff _ _).2 (ExtendedRat.bot_lt_ofRat _)
    | finite b => exact (hmono.cmp_map_eq a b).trans (cmp_eq_compare a b)
    | posInf => exact (cmp_eq_lt_iff _ _).2 (ExtendedRat.ofRat_lt_top _)
  | posInf =>
    cases q with
    | negInf => exact (cmp_eq_gt_iff _ _).2 hbot
    | finite b => exact (cmp_eq_gt_iff _ _).2 (ExtendedRat.ofRat_lt_top _)
    | posInf => exact cmp_self_eq_eq _

/-- The other way round, places have the reverse order. -/
theorem Extended.compare_swap (p q : Extended) : (p.compare q).swap = q.compare p := by
  rw [compare_eq_cmp, compare_eq_cmp, cmp_swap]

/-- The units of a number, divided by those in one, are what its sign, significand and scale
denote. -/
theorem Binary64.signedUnits_div (x : Binary64) :
    (x.signedUnits / unitsPerOne : ℚ) =
      (if x.negative then -1 else 1) * x.significand * (2 : ℚ) ^ ((x.scale : ℤ) - 1074) := by
  have hone : (unitsPerOne : ℚ) = 2 ^ 1074 := by
    simp only [unitsPerOne, Nat.cast_pow, Nat.cast_ofNat]
  rw [zpow_sub₀ two_ne_zero, zpow_natCast, zpow_ofNat, hone, signedUnits, units, ← mul_div_assoc]
  split
  · push_cast
    rw [neg_one_mul, neg_mul]
  · push_cast
    rw [one_mul]

/-- Whole numbers stand at the places of their multiples of the unit. -/
theorem Extended.value_finite_mul (n : Int) :
    (finite (n * Binary64.unitsPerOne)).value = .ofRat n := by
  have hone : (Binary64.unitsPerOne : ℚ) ≠ 0 := Nat.cast_ne_zero.2 Binary64.unitsPerOne_pos.ne'
  rw [value, Int.cast_mul, Int.cast_natCast, mul_div_cancel_right₀ _ hone]

/-- The value of a floating-point number is the value at its place. -/
theorem Binary64.value?_eq (x : Binary64) : x.value? = x.place?.map Extended.value := by
  unfold value? place?
  split
  · rfl
  split
  · rw [Option.map_some, Extended.value, signedUnits_div]
  · cases x.negative <;> rfl

/-- **A number between the cut-offs is converted to an integer without loss.** -/
theorem Binary64.exists_toInt128 {x : Binary64} (hnan : ¬x.isNaN)
    (habove : ¬x.isAtLeast aboveIntegers) (hbelow : ¬x.isLess belowIntegers) :
    ∃ n : Int, x.truncate.value? = some (.ofRat n) ∧ (-2 ^ 127 ≤ n ∧ n < 2 ^ 127) ∧
      x.truncate.toInt128 = n := by
  have hfinite : x.isFinite := by
    by_contra h
    have hplace := place?_of_infinite hnan h
    rw [isAtLeast_eq hplace place?_aboveIntegers] at habove
    rw [isLess_eq hplace place?_belowIntegers] at hbelow
    -- An infinity is beyond one of the cut-offs.
    cases hsign : x.negative with
    | true => exact hbelow (by rw [hsign]; rfl)
    | false => exact habove (by rw [hsign]; rfl)
  obtain ⟨hlow, hhigh⟩ := tdiv_bounds hfinite hbelow habove
  refine ⟨_, ?_, ⟨hlow, hhigh⟩, toInt128_truncate hfinite hlow hhigh⟩
  rw [value?_eq, place?_of_isFinite (isFinite_truncate hfinite), signedUnits_truncate,
    Option.map_some, Extended.value_finite_mul]

/-- **The value of a number is the value at its place,** in whatever storage. -/
theorem Number.value?_eq (a : Number) : a.value? = a.place?.map Extended.value := by
  cases a with
  | signed n => exact congrArg some (Extended.value_finite_mul n.toInt).symm
  | unsigned n =>
    rw [value?, place?, Option.map_some, Extended.value_finite_mul, Int.cast_natCast]
  | float x => exact x.value?_eq

/-! ### Comparing numbers -/

namespace Number

variable {a b c : Number}

/-- Only what is not a number has no value. -/
theorem value?_eq_none_iff : a.value? = none ↔ a.isNaN := by
  cases a with
  | signed n => simp [value?, isNaN]
  | unsigned n => simp [value?, isNaN]
  | float x =>
    simp only [value?, Binary64.value?, isNaN]
    split
    · simp_all
    · split <;> simp_all

/-- Natural numbers compare as integers do. -/
theorem compare_natCast (m n : Nat) : compare (m : Int) (n : Int) = compare m n := by
  rw [← cmp_eq_compare, ← cmp_eq_compare]
  exact Nat.strictMono_cast.cmp_map_eq m n

/-- Multiples of one unit compare as their factors do. -/
theorem compare_mul_right {one : Int} (h : 0 < one) (m n : Int) :
    compare (m * one) (n * one) = compare m n := by
  rw [← cmp_eq_compare, ← cmp_eq_compare]
  exact (strictMono_mul_right_of_pos h).cmp_map_eq m n

/-- A signed and an unsigned integer compare as integers, though neither storage holds both. -/
theorem compareMixed_eq (a : Int64) (b : UInt64) :
    compareMixed a b = compare a.toInt (b.toNat : Int) := by
  rw [compareMixed]
  split
  · rename_i h
    rw [← compare_natCast, Int.toNat_of_nonneg h]
  · exact (Int.compare_eq_lt.2 (by omega)).symm

/-- A floating-point number has its place as a number. -/
theorem place?_float (x : Binary64) : (float x).place? = x.place? := rfl

/-- Every case of the comparison is a comparison of places. -/
theorem compare?_eq_compare (a b : Number) :
    a.compare? b = (do return (← a.place?).compare (← b.place?)) := by
  have hone : (0 : Int) < Binary64.unitsPerOne := Int.ofNat_lt.2 Binary64.unitsPerOne_pos
  cases a with
  | signed m =>
    cases b with
    | signed n => exact congrArg some (compare_mul_right hone _ _).symm
    | unsigned n =>
      exact congrArg some ((compareMixed_eq m n).trans (compare_mul_right hone _ _).symm)
    | float x =>
      rw [compare?, Binary64.compareInt?_eq (JsonNumber.signed_fits m), place?_float]
      cases x.place? <;> rfl
  | unsigned m =>
    cases b with
    | signed n =>
      have hmixed := (compareMixed_eq n m).trans (compare_mul_right hone _ _).symm
      exact congrArg some ((congrArg Ordering.swap hmixed).trans
        (Extended.compare_swap (.finite _) (.finite _)))
    | unsigned n =>
      exact congrArg some ((compare_natCast _ _).symm.trans (compare_mul_right hone _ _).symm)
    | float x =>
      rw [compare?, Binary64.compareInt?_eq (JsonNumber.unsigned_fits m), place?_float]
      cases x.place? <;> rfl
  | float x =>
    cases b with
    | signed n =>
      rw [compare?, Binary64.compareInt?_eq (JsonNumber.signed_fits n), place?_float]
      cases x.place? with
      | none => rfl
      | some p => exact congrArg some (Extended.compare_swap _ p)
    | unsigned n =>
      rw [compare?, Binary64.compareInt?_eq (JsonNumber.unsigned_fits n), place?_float]
      cases x.place? with
      | none => rfl
      | some p => exact congrArg some (Extended.compare_swap _ p)
    | float y =>
      rw [compare?, Binary64.compare?, place?_float, place?_float]
      cases x.place? <;> cases y.place? <;> rfl

/-- **Numbers compare by the order of their exact values.** -/
theorem compare?_eq_cmp (a b : Number) :
    a.compare? b = (do return cmp (← a.value?) (← b.value?)) := by
  rw [compare?_eq_compare, value?_eq, value?_eq]
  cases a.place? with
  | none => rfl
  | some p =>
    cases b.place? with
    | none => rfl
    | some q => exact congrArg some (Extended.compare_eq_cmp p q)

example : compare? (.signed 9007199254740993) (.float (.ofInt 9007199254740992)) = some .gt := by
  decide +kernel

example : compare? (.float (.zero true)) (.unsigned 0) = some .eq := by decide +kernel

/-- A number is at most another if it is less or has the same value. -/
def isAtMost (a b : Number) : Bool := (a.compare? b).any Ordering.isLE

/-- A number other than what is not a number. -/
abbrev Proper : Type := {a : Number // ¬a.isNaN}

namespace Proper

/-- The exact value of a number that has one. -/
def value (a : Proper) : ExtendedRat :=
  a.1.value?.get (Option.isSome_iff_ne_none.2 (value?_eq_none_iff.not.2 a.2))

variable (a b : Proper)

/-- A number that is one has the value it is given. -/
theorem value?_eq : a.1.value? = some a.value := (Option.some_get _).symm

/-- Such numbers always have an order, that of their values. -/
theorem compare?_eq : a.1.compare? b.1 = some (cmp a.value b.value) := by
  rw [compare?_eq_cmp, a.value?_eq, b.value?_eq]
  rfl

/-- They are the same if their values are. -/
theorem same_iff : a.1.same b.1 ↔ a.value = b.value := by
  rw [same, compare?_eq, beq_iff_eq, Option.some.injEq, cmp_eq_eq_iff]

/-- One is at most another if its value is. -/
theorem isAtMost_iff : a.1.isAtMost b.1 ↔ a.value ≤ b.value := by
  rw [isAtMost, compare?_eq, Option.any_some, cmp_eq_compare, Ordering.isLE_iff_ne_gt]
  exact compare_le_iff_le

end Proper

/-- There is no order just if one of the numbers is not a number. -/
theorem compare?_eq_none_iff (a b : Number) : a.compare? b = none ↔ a.isNaN ∨ b.isNaN := by
  rw [compare?_eq_cmp, ← value?_eq_none_iff, ← value?_eq_none_iff]
  cases a.value? with
  | none => exact iff_of_true rfl (.inl rfl)
  | some v =>
    cases b.value? with
    | none => exact iff_of_true rfl (.inr rfl)
    | some w => exact iff_of_false (Option.some_ne_none _) (by simp)

/-- The other way round, numbers have the reverse order. -/
theorem compare?_swap (a b : Number) : b.compare? a = (a.compare? b).map .swap := by
  rw [compare?_eq_cmp, compare?_eq_cmp]
  cases a.value? with
  | none => cases b.value? <;> rfl
  | some v =>
    cases b.value? with
    | none => rfl
    | some w => exact congrArg some (cmp_swap v w).symm

/-- **Numbers compare by their exact values, across storages.**

* Two numbers have an order unless one of them is not a number, and it is then the
  order of their exact values; the other way round it is the reverse.
* A floating-point number that is converted to a 128-bit integer on the way, cut off
  and neither above nor below all integers of 64 bits, is that integer exactly.
* Among all numbers but what is not a number, having the same value is an
  equivalence, and being at most another is a total order up to it. -/
theorem compare?_exact :
    (∀ a b : Number, (a.compare? b = none ↔ a.isNaN ∨ b.isNaN) ∧
      (a.value? = none ↔ a.isNaN) ∧
      a.compare? b = (do return cmp (← a.value?) (← b.value?)) ∧
      b.compare? a = (a.compare? b).map .swap) ∧
    (∀ x : Binary64, ¬x.isNaN → ¬x.isAtLeast .aboveIntegers → ¬x.isLess .belowIntegers →
      ∃ n : Int, x.truncate.value? = some (.ofRat n) ∧ (-2 ^ 127 ≤ n ∧ n < 2 ^ 127) ∧
        x.truncate.toInt128 = n) ∧
    Equivalence (fun a b : Proper => a.1.same b.1) ∧
    (∀ a b : Proper, a.1.isAtMost b.1 ∨ b.1.isAtMost a.1) ∧
    (∀ a b c : Proper, a.1.isAtMost b.1 → b.1.isAtMost c.1 → a.1.isAtMost c.1) ∧
    ∀ a b : Proper, a.1.same b.1 ↔ a.1.isAtMost b.1 ∧ b.1.isAtMost a.1 := by
  refine ⟨fun a b => ⟨compare?_eq_none_iff a b, value?_eq_none_iff, compare?_eq_cmp a b,
    compare?_swap a b⟩, fun x => Binary64.exists_toInt128, ⟨?_, ?_, ?_⟩, ?_, ?_, ?_⟩
  · exact fun a => (a.same_iff a).2 rfl
  · exact fun {a b} h => (b.same_iff a).2 ((a.same_iff b).1 h).symm
  · exact fun {a b c} hab hbc =>
      (a.same_iff c).2 (((a.same_iff b).1 hab).trans ((b.same_iff c).1 hbc))
  · intro a b
    rw [a.isAtMost_iff, b.isAtMost_iff]
    exact le_total a.value b.value
  · intro a b c hab hbc
    rw [Proper.isAtMost_iff] at hab hbc ⊢
    exact hab.trans hbc
  · intro a b
    rw [a.same_iff, a.isAtMost_iff, b.isAtMost_iff]
    exact le_antisymm_iff

/-- The number `-2.5`. -/
def minusTwoAndAHalf : Binary64 := ⟨0xC004000000000000⟩

/-- The hypotheses are satisfiable.  The number `-2.5` is cut off to the integer `-2`,
which is above it: what was cut off decides, and decides the other way round too. -/
theorem compare?_exact_minusTwoAndAHalf :
    (¬minusTwoAndAHalf.isNaN ∧ ¬minusTwoAndAHalf.isAtLeast .aboveIntegers ∧
      ¬minusTwoAndAHalf.isLess .belowIntegers) ∧
    minusTwoAndAHalf.truncate.value? = some (.ofRat (-2 : Int)) ∧
    (float minusTwoAndAHalf).compare? (.signed (-2)) = some .lt ∧
    (signed (-2)).compare? (.float minusTwoAndAHalf) = some .gt := by
  have hnan : ¬minusTwoAndAHalf.isNaN := by decide
  have habove : ¬minusTwoAndAHalf.isAtLeast .aboveIntegers := by decide +kernel
  have hbelow : ¬minusTwoAndAHalf.isLess .belowIntegers := by decide +kernel
  obtain ⟨hcompare, hconvert, -⟩ := compare?_exact
  obtain ⟨n, hvalue, -, hn⟩ := hconvert minusTwoAndAHalf hnan habove hbelow
  obtain rfl : n = -2 := hn.symm.trans (by decide +kernel)
  have hless : (float minusTwoAndAHalf).compare? (.signed (-2)) = some .lt := by decide +kernel
  obtain ⟨-, -, -, hswap⟩ := hcompare (.float minusTwoAndAHalf) (.signed (-2))
  exact ⟨⟨hnan, habove, hbelow⟩, hvalue, hless, by rw [hswap, hless]; rfl⟩

end Number
end RecordQuery
