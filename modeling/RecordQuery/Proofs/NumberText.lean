/-
# The text of a number is read back

A number is written with a sign, a whole part and, if it is a floating-point number, a
fraction or an exponent or both, and these parts are read back.  What is left is arithmetic on
digits.  The three positional forms and the scientific one show the digits of one decimal with
the point in different places, and with zeros in front or behind; all of them denote that
decimal (`Json.Denotes`), and the shortest decimal of a number is read back as the number
(`Binary64.ofDecimal_shortest`).
-/

import RecordQuery.Proofs.NumberParts

namespace RecordQuery
namespace Json

open Binary64

variable {negative : Bool} {ds whole fraction : List Char} {d : Decimal}

/-! ### The forms of a decimal -/

/-- Digits before and after a point denote a decimal. -/
def Denotes (whole fraction : List Char) (d : Decimal) : Prop :=
  ∀ negative, ofDecimal negative (digitsValue (whole ++ fraction)) (-fraction.length) =
    ofDecimal negative d.digits d.exponent

/-- Digits before and after a point that are read as a decimal. -/
structure Shows (whole fraction : List Char) (d : Decimal) : Prop where
  isWhole : IsWhole whole
  ne_nil : fraction ≠ []
  isDigit : ∀ c ∈ fraction, isDigit c
  denotes : Denotes whole fraction d

/-- Zeros are digits. -/
theorem isDigit_of_mem_zeros {k : Nat} {c : Char} (h : c ∈ List.replicate k '0') : isDigit c := by
  rw [List.eq_of_mem_replicate h]
  rfl

/-- A zero alone is a whole part. -/
theorem isWhole_zero : IsWhole ['0'] :=
  ⟨List.cons_ne_nil _ _, fun _ hc => List.mem_singleton.1 hc ▸ rfl, fun _ => rfl⟩

section

variable (hds : IsWhole ds) (hfirst : ds.head? ≠ some '0') (hvalue : digitsValue ds = d.digits)
include hds hvalue

include hfirst in
/-- The digits with zeros behind them, and one more after the point. -/
theorem shows_zerosBehind (hexponent : 0 ≤ d.exponent) :
    Shows (ds ++ List.replicate d.exponent.toNat '0') ['0'] d where
  isWhole := by
    refine ⟨by simp [hds.ne_nil], fun c hc => ?_, fun hzero => absurd ?_ hfirst⟩
    · exact (List.mem_append.1 hc).elim (hds.isDigit c) isDigit_of_mem_zeros
    · obtain ⟨c, cs, hcons⟩ := List.exists_cons_of_ne_nil hds.ne_nil
      rw [hcons] at hzero ⊢
      exact hzero
  ne_nil := List.cons_ne_nil _ _
  isDigit := isWhole_zero.isDigit
  denotes negative := by
    have hdigits : ds ++ List.replicate d.exponent.toNat '0' ++ ['0'] =
        ds ++ List.replicate (d.exponent.toNat + 1) '0' := by
      rw [List.replicate_succ', List.append_assoc]
    rw [hdigits, digitsValue_append_zeros, ofDecimal_mul_pow, hvalue]
    congr 1
    simp
    omega

variable {places : Nat} (hplaces : d.exponent = -places)
include hplaces

include hfirst in
/-- The digits with the point among them. -/
theorem shows_pointAmong (hpos : 0 < places) (hshort : places < ds.length) :
    Shows (ds.take (ds.length - places)) (ds.drop (ds.length - places)) d where
  isWhole := by
    refine ⟨?_, fun c hc => hds.isDigit c (List.mem_of_mem_take hc), fun hzero => ?_⟩
    · rw [Ne, List.take_eq_nil_iff, not_or]
      exact ⟨by omega, hds.ne_nil⟩
    · rw [List.head?_take] at hzero
      split at hzero
      · cases hzero
      · exact absurd hzero hfirst
  ne_nil := by
    rw [Ne, List.drop_eq_nil_iff]
    omega
  isDigit c hc := hds.isDigit c (List.mem_of_mem_drop hc)
  denotes negative := by
    rw [List.take_append_drop, hvalue, List.length_drop]
    congr 1
    omega

/-- The digits with zeros in front of them. -/
theorem shows_zerosInFront (hlong : ds.length ≤ places) :
    Shows ['0'] (List.replicate (places - ds.length) '0' ++ ds) d where
  isWhole := isWhole_zero
  ne_nil := by simp [hds.ne_nil]
  isDigit c hc := (List.mem_append.1 hc).elim isDigit_of_mem_zeros (hds.isDigit c)
  denotes negative := by
    have hdigits : ['0'] ++ (List.replicate (places - ds.length) '0' ++ ds) =
        List.replicate (places - ds.length + 1) '0' ++ ds := by
      rw [List.replicate_succ]
      rfl
    rw [hdigits, digitsValue_zeros_append, hvalue, List.length_append, List.length_replicate]
    congr 1
    omega

end

/-- **The positional forms denote their decimal,** wherever the point is. -/
theorem exists_positionalText (hd : 0 < d.digits) : ∃ whole fraction,
    (Layout.interchange.positionalText d).toList = whole ++ '.' :: fraction ∧
      Shows whole fraction d := by
  obtain ⟨ds, hds⟩ : ∃ ds, ds = Nat.toDigits 10 d.digits := ⟨_, rfl⟩
  have hvalue : digitsValue ds = d.digits := by rw [hds, digitsValue_toDigits]
  have hwhole : IsWhole ds := hds ▸ isWhole_toDigits hd
  have hfirst : ds.head? ≠ some '0' := hds ▸ head?_toDigits_ne hd
  rw [Layout.positionalText, ← hds]
  by_cases hexponent : 0 ≤ d.exponent
  · rw [if_pos hexponent]
    exact ⟨_, _, by simp [Layout.zeros, Layout.interchange],
      shows_zerosBehind hwhole hfirst hvalue hexponent⟩
  · obtain ⟨places, hplaces⟩ : ∃ places, places = (-d.exponent).toNat := ⟨_, rfl⟩
    have hnegative : d.exponent = -places := by omega
    rw [if_neg hexponent]
    dsimp only
    rw [← hplaces]
    by_cases hshort : places < ds.length
    · rw [if_pos hshort]
      exact ⟨_, _, by simp, shows_pointAmong hwhole hfirst hvalue hnegative (by omega) hshort⟩
    · rw [if_neg hshort]
      exact ⟨_, _, by simp [Layout.zeros],
        shows_zerosInFront hwhole hvalue hnegative (Nat.le_of_not_lt hshort)⟩

/-- **The scientific form denotes its decimal,** with the point after the first digit. -/
theorem exists_scientificText (hd : 0 < d.digits) : ∃ whole fraction,
    (Layout.interchange.scientificText d).toList =
      whole ++ ((if fraction.isEmpty then [] else '.' :: fraction) ++
        'e' :: (if d.leadingExponent < 0 then '-' else '+') ::
          Nat.toDigits 10 d.leadingExponent.natAbs) ∧
      IsWhole whole ∧ (∀ c ∈ fraction, isDigit c) ∧
        ∀ negative, ofDecimal negative (digitsValue (whole ++ fraction))
          (d.leadingExponent - fraction.length) = ofDecimal negative d.digits d.exponent := by
  obtain ⟨ds, hds⟩ : ∃ ds, ds = Nat.toDigits 10 d.digits := ⟨_, rfl⟩
  have hvalue : digitsValue ds = d.digits := by rw [hds, digitsValue_toDigits]
  have hwhole : IsWhole ds := hds ▸ isWhole_toDigits hd
  have hlength : decimalLength d.digits = ds.length := by rw [decimalLength, hds]
  obtain ⟨c, fraction, hcons⟩ := List.exists_cons_of_ne_nil hwhole.ne_nil
  refine ⟨[c], fraction, ?_, ⟨List.cons_ne_nil _ _, ?_, ?_⟩, ?_, fun negative => ?_⟩
  · rw [Layout.scientificText, ← hds, hcons]
    cases fraction <;> by_cases he : d.leadingExponent < 0 <;>
      simp [he, Layout.digits, Layout.interchange]
  · exact fun c' hc' => hwhole.isDigit c' (hcons ▸ List.mem_singleton.1 hc' ▸ List.mem_cons_self)
  · rintro ⟨⟩
    rfl
  · exact fun c' hc' => hwhole.isDigit c' (hcons ▸ List.mem_cons_of_mem _ hc')
  · have hleading : d.leadingExponent - fraction.length = d.exponent := by
      rw [Decimal.leadingExponent, hlength, hcons, List.length_cons]
      omega
    rw [hleading, List.singleton_append, ← hcons, hvalue]

/-! ### The text of a number -/

/-- The text of a number after its sign: it begins with a digit and is read back up to what
follows it. -/
structure ReadsBack (negative : Bool) (body : List Char) (n : JsonNumber) : Prop where
  exists_cons : ∃ c cs, body = c :: cs ∧ isDigit c
  scan : ∀ {rest}, EndsNumber rest → scanNumber? negative (body ++ rest) = some (n, rest)

variable {x : Binary64}

/-- A finite number is one that JSON can hold. -/
theorem finite?_of_isFinite (h : x.isFinite) : finite? x = some (.float x h) := dif_pos h

/-- A whole part begins with a digit. -/
theorem IsWhole.exists_cons (h : IsWhole ds) (tail : List Char) :
    ∃ c cs, ds ++ tail = c :: cs ∧ Json.isDigit c := by
  obtain ⟨c, cs, hcons⟩ := List.exists_cons_of_ne_nil h.ne_nil
  refine ⟨c, cs ++ tail, by rw [hcons, List.cons_append], h.isDigit c ?_⟩
  rw [hcons]
  exact List.mem_cons_self

/-- A number that is denoted with a point reads back. -/
theorem readsBack_point (hwhole : IsWhole whole) (hne : fraction ≠ [])
    (hfraction : ∀ c ∈ fraction, isDigit c) (h : x.isFinite)
    (hread : ofDecimal negative (digitsValue (whole ++ fraction)) (-fraction.length) = x) :
    ReadsBack negative (whole ++ '.' :: fraction) (.float x h) where
  exists_cons := hwhole.exists_cons _
  scan hrest := by
    rw [List.append_assoc, List.cons_append, scanNumber?_point hwhole hne hfraction hrest, hread,
      finite?_of_isFinite h]
    rfl

/-- A number that is denoted with an exponent reads back. -/
theorem readsBack_exponent (hwhole : IsWhole whole) (hfraction : ∀ c ∈ fraction, isDigit c)
    {e : Int} (h : x.isFinite)
    (hread : ofDecimal negative (digitsValue (whole ++ fraction)) (e - fraction.length) = x) :
    ReadsBack negative (whole ++ ((if fraction.isEmpty then [] else '.' :: fraction) ++
      'e' :: (if e < 0 then '-' else '+') :: Nat.toDigits 10 e.natAbs)) (.float x h) where
  exists_cons := hwhole.exists_cons _
  scan hrest := by
    rw [List.append_assoc, List.append_assoc, List.cons_append, List.cons_append,
      scanNumber?_exponent hwhole hfraction e hrest, hread, finite?_of_isFinite h]
    rfl

/-- The text of a floating-point number after its sign. -/
theorem exists_readsBack_float (h : x.isFinite) : ∃ body,
    (Layout.interchange.text x).toList = (if x.negative then ['-'] else []) ++ body ∧
      ReadsBack x.negative body (.float x h) := by
  have hnan : x.isNaN = false := isNaN_eq_false_of_isFinite h
  have hsign : ∀ text : String, ((if x.negative then "-" else "") ++ text).toList =
      (if x.negative then ['-'] else []) ++ text.toList := fun text => by
    cases x.negative <;> simp
  rw [Layout.text, hnan, if_neg Bool.false_ne_true]
  dsimp only
  by_cases hzero : x.magnitude = 0
  · -- Zero has one form, and its sign is all that it can be read back from.
    have hread : ofDecimal x.negative (digitsValue (['0'] ++ ['0'])) (-(['0'].length : Nat)) = x :=
      eq_of_magnitude_eq (negative_ofDecimal ..)
        (Eq.trans (magnitude_ofMagnitude (show 0 < 2 ^ 63 by decide)) hzero.symm)
    refine ⟨['0'] ++ '.' :: ['0'], ?_,
      readsBack_point isWhole_zero (List.cons_ne_nil _ _) isWhole_zero.isDigit h hread⟩
    rw [if_pos hzero, String.append_assoc, hsign]
    rfl
  · have hread := ofDecimal_shortest h hzero .toEven
    have hdigits := digits_shortest_pos h hzero .toEven
    rw [if_neg hzero, if_pos h, hsign]
    by_cases hpositional :
        Layout.interchange.positional (x.shortest Layout.interchange.tie).leadingExponent
    · obtain ⟨whole, fraction, htext, hshows⟩ := exists_positionalText hdigits
      have hdenotes := (hshows.denotes x.negative).trans hread
      rw [if_pos hpositional]
      exact ⟨_, congrArg _ htext,
        readsBack_point hshows.isWhole hshows.ne_nil hshows.isDigit h hdenotes⟩
    · obtain ⟨whole, fraction, htext, hwhole, hfraction, hdenotes⟩ := exists_scientificText hdigits
      rw [if_neg hpositional]
      exact ⟨_, congrArg _ htext,
        readsBack_exponent hwhole hfraction h ((hdenotes x.negative).trans hread)⟩

/-- A sign and the digits of an integer make the integer, if it fits. -/
theorem wholeNumber?_natAbs (n : Int) (hfits : -2 ^ 63 ≤ n ∧ n < 2 ^ 64) :
    wholeNumber? (n < 0) n.natAbs = some (.int n hfits) := by
  have hvalue : (if decide (n < 0) then -(n.natAbs : Int) else n.natAbs) = n := by
    by_cases hn : n < 0
    · rw [decide_eq_true hn, if_pos rfl]
      omega
    · rw [decide_eq_false hn, if_neg Bool.false_ne_true]
      omega
  have hnotzero : (decide (n < 0) && decide (n.natAbs = 0)) = false := by
    rw [Bool.and_eq_false_iff, decide_eq_false_iff_not, decide_eq_false_iff_not]
    omega
  simp only [wholeNumber?, hvalue]
  rw [dif_pos hfits, hnotzero, if_neg Bool.false_ne_true]

/-- The text of an integer after its sign. -/
theorem readsBack_int (n : Int) (hfits : -2 ^ 63 ≤ n ∧ n < 2 ^ 64) :
    ReadsBack (n < 0) (Nat.toDigits 10 n.natAbs) (.int n hfits) := by
  have hwhole : IsWhole (Nat.toDigits 10 n.natAbs) := by
    rcases Nat.eq_zero_or_pos n.natAbs with hzero | hpos
    · exact hzero ▸ isWhole_zero
    · exact isWhole_toDigits hpos
  refine ⟨?_, fun {rest} hrest => ?_⟩
  · have hcons := hwhole.exists_cons []
    rwa [List.append_nil] at hcons
  · rw [scanNumber?, scanWhole?_append hwhole hrest.noDigit]
    simp only [Option.bind_eq_bind, Option.bind_some]
    rw [scanFraction?_of_head?_ne fun h => (hrest '.' h).2.1 rfl]
    simp only [Option.bind_some]
    rw [scanExponent?_of_head?_ne fun c hc => (hrest c hc).2.2]
    simp only [Option.bind_some, List.isEmpty_nil, Option.isNone_none, Bool.and_self, if_true,
      digitsValue_toDigits, wholeNumber?_natAbs n hfits]
    rfl

/-- **The text of a number is read back,** after its sign and up to what follows it. -/
theorem exists_readsBack (n : JsonNumber) : ∃ negative body,
    (numberText n).toList = (if negative then ['-'] else []) ++ body ∧
      ReadsBack negative body n := by
  cases n with
  | int n hfits =>
    refine ⟨_, _, ?_, readsBack_int n hfits⟩
    rw [numberText, intText, String.toList_append, Layout.digits, String.toList_ofList]
    by_cases hn : n < 0 <;> simp [hn]
  | float x h => exact ⟨x.negative, exists_readsBack_float h⟩

end Json
end RecordQuery
