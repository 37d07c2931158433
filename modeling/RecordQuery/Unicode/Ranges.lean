/-
# Sets of code points as ranges

A set of code points is kept as ranges in increasing order that neither overlap
nor touch.  `contains_normalize`, `contains_union` and `contains_inter` say that
the operations do what their names say.  Tables of ranges are written as text,
one word a range, with hexadecimal ends: `41-5A AA B5`.

Surrogates lie between `D7FF` and `E000` and are no characters, so the character
after `D7FF` is `E000`.  Ranges that end and begin there do not touch.
-/

import RecordQuery.Text.Words

namespace RecordQuery
namespace Unicode

/-- Closed ranges of code points, in increasing order. -/
abbrev Ranges := List (Nat × Nat)

/-- The last code point. -/
def lastCodePoint : Nat := 0x10FFFF

/-- The character after a code point. -/
def next (c : Nat) : Nat := if c = 0xD7FF then 0xE000 else c + 1

/-- The character before a code point. -/
def previous (c : Nat) : Nat := if c = 0xE000 then 0xD7FF else c - 1

namespace Ranges

/-- Whether a code point lies in one of the ranges. -/
def contains (rs : Ranges) (c : Nat) : Bool := rs.any fun r => r.1 ≤ c && c ≤ r.2

/-- No ranges hold nothing. -/
@[simp]
theorem contains_nil {c : Nat} : contains [] c = false := rfl

/-- A code point is in the first range or in another one. -/
@[simp]
theorem contains_cons {r : Nat × Nat} {rs : Ranges} {c : Nat} :
    contains (r :: rs) c = true ↔ (r.1 ≤ c ∧ c ≤ r.2) ∨ contains rs c = true := by
  simp [contains]

/-- Ranges one after the other hold what either of them do. -/
@[simp]
theorem contains_append {rs ss : Ranges} {c : Nat} :
    contains (rs ++ ss) c = true ↔ contains rs c = true ∨ contains ss c = true := by
  simp [contains]

/-- Ranges that all start behind a code point hold only what is behind it. -/
theorem lt_of_contains {hi c : Nat} {rs : Ranges} (h : ∀ r ∈ rs, hi < r.1)
    (hc : contains rs c = true) : hi < c := by
  simp only [contains, List.any_eq_true, Bool.and_eq_true, decide_eq_true_eq] at hc
  obtain ⟨r, hr, hlo, _⟩ := hc
  have := h r hr
  omega

/-! ### Normal form -/

/-- Joins a range with those after it that overlap or touch it, and so on; the
ranges are ordered by their starts. -/
def joinFrom (lo hi : Nat) : Ranges → Ranges
  | [] => [(lo, hi)]
  | (lo', hi') :: rest =>
    if lo' ≤ hi + 1 then joinFrom lo (max hi hi') rest else (lo, hi) :: joinFrom lo' hi' rest

/-- Joins ranges that overlap or touch, in ranges ordered by their starts. -/
def join : Ranges → Ranges
  | [] => []
  | (lo, hi) :: rest => joinFrom lo hi rest

/-- Joining to a first range changes nothing, if the ranges are sorted. -/
theorem contains_joinFrom {lo hi c : Nat} {rs : Ranges} (h : rs.Pairwise (·.1 ≤ ·.1))
    (hlo : ∀ r ∈ rs, lo ≤ r.1) :
    contains (joinFrom lo hi rs) c = true ↔ (lo ≤ c ∧ c ≤ hi) ∨ contains rs c = true := by
  induction rs generalizing lo hi with
  | nil => simp [joinFrom]
  | cons r rs ih =>
    obtain ⟨hr, h⟩ := List.pairwise_cons.1 h
    have hle := hlo r (by simp)
    rw [joinFrom]
    split
    · rw [ih h fun s hs => Nat.le_trans hle (hr s hs), contains_cons]
      constructor
      · rintro (_ | _)
        · omega
        · simp [*]
      · rintro (_ | _ | _)
        · omega
        · omega
        · simp [*]
    · rw [contains_cons, contains_cons, ih h hr]

/-- Joining ranges does not change which code points they hold. -/
theorem contains_join {c : Nat} {rs : Ranges} (h : rs.Pairwise (·.1 ≤ ·.1)) :
    contains (join rs) c = true ↔ contains rs c = true := by
  cases rs with
  | nil => simp [join]
  | cons r rs =>
    obtain ⟨hr, h⟩ := List.pairwise_cons.1 h
    rw [join, contains_joinFrom h hr, contains_cons]

/-- Whether a range does not start after another. -/
def startsFirst (r s : Nat × Nat) : Bool := r.1 ≤ s.1

/-- The order of ranges by their starts is transitive. -/
theorem startsFirst_trans (r s t : Nat × Nat) (h : startsFirst r s = true)
    (h' : startsFirst s t = true) : startsFirst r t = true := by
  simp only [startsFirst, decide_eq_true_eq] at *
  omega

/-- It is total, too. -/
theorem startsFirst_total (r s : Nat × Nat) : (startsFirst r s || startsFirst s r) = true := by
  simp only [startsFirst, Bool.or_eq_true, decide_eq_true_eq]
  omega

/-- Ranges in any order as a set. -/
def normalize (rs : Ranges) : Ranges := join (rs.mergeSort startsFirst)

/-- **Ranges in normal form hold the same code points.** -/
theorem contains_normalize {c : Nat} {rs : Ranges} :
    contains (normalize rs) c = true ↔ contains rs c = true := by
  have h : (rs.mergeSort startsFirst).Pairwise (·.1 ≤ ·.1) := by
    simpa [startsFirst] using List.pairwise_mergeSort startsFirst_trans startsFirst_total rs
  rw [normalize, contains_join h]
  simp [contains, (List.mergeSort_perm rs startsFirst).mem_iff]

/-! ### Operations -/

/-- The code points of either set. -/
def union (rs ss : Ranges) : Ranges := join (rs.merge ss startsFirst)

/-- **A union holds what either set holds.** -/
theorem contains_union {c : Nat} {rs ss : Ranges} (hr : rs.Pairwise (·.1 ≤ ·.1))
    (hs : ss.Pairwise (·.1 ≤ ·.1)) :
    contains (union rs ss) c = true ↔ contains rs c = true ∨ contains ss c = true := by
  have h : (rs.merge ss startsFirst).Pairwise (·.1 ≤ ·.1) := by
    simpa [startsFirst] using List.pairwise_merge startsFirst_trans startsFirst_total rs ss
      (by simpa [startsFirst]) (by simpa [startsFirst])
  rw [union, contains_join h]
  simp [contains, List.mem_merge, or_and_right, exists_or]

/-- What two ranges have in common. -/
def overlap (r s : Nat × Nat) : Ranges :=
  if max r.1 s.1 ≤ min r.2 s.2 then [(max r.1 s.1, min r.2 s.2)] else []

/-- Two ranges overlap in what both of them hold. -/
theorem contains_overlap {r s : Nat × Nat} {c : Nat} :
    contains (overlap r s) c = true ↔ (r.1 ≤ c ∧ c ≤ r.2) ∧ s.1 ≤ c ∧ c ≤ s.2 := by
  unfold overlap
  split
  · simp only [contains_cons, contains_nil, Bool.false_eq_true, or_false]
    omega
  · simp only [contains_nil, Bool.false_eq_true, false_iff]
    omega

/-- The code points of both sets. -/
def inter : Ranges → Ranges → Ranges
  | [], _ => []
  | _, [] => []
  | r :: rs, s :: ss =>
    if r.2 < s.2 then overlap r s ++ inter rs (s :: ss) else overlap r s ++ inter (r :: rs) ss
termination_by rs ss => rs.length + ss.length

/-- **An intersection holds what both sets hold.** -/
theorem contains_inter {c : Nat} {rs ss : Ranges} (hr : rs.Pairwise (·.2 < ·.1))
    (hs : ss.Pairwise (·.2 < ·.1)) :
    contains (inter rs ss) c = true ↔ contains rs c = true ∧ contains ss c = true := by
  fun_induction inter rs ss with
  | case1 => simp
  | case2 => simp
  | case3 r rs s ss hlt ih =>
    obtain ⟨_, hrs⟩ := List.pairwise_cons.1 hr
    obtain ⟨hs', _⟩ := List.pairwise_cons.1 hs
    have hne : c ≤ r.2 → contains ss c ≠ true := fun hc h => by
      have := lt_of_contains hs' h
      omega
    rw [contains_append, contains_overlap, ih hrs hs, contains_cons, contains_cons]
    grind
  | case4 r rs s ss hge ih =>
    obtain ⟨hr', _⟩ := List.pairwise_cons.1 hr
    obtain ⟨_, hss⟩ := List.pairwise_cons.1 hs
    have hne : c ≤ s.2 → contains rs c ≠ true := fun hc h => by
      have := lt_of_contains hr' h
      omega
    rw [contains_append, contains_overlap, ih hr hss, contains_cons, contains_cons]
    grind

/-- The code points of the first set that are not in the second. -/
def diff : Ranges → Ranges → Ranges
  | [], _ => []
  | rs, [] => rs
  | (lo, hi) :: rs, (lo', hi') :: ss =>
    if hi' < lo then diff ((lo, hi) :: rs) ss
    else if hi < lo' then (lo, hi) :: diff rs ((lo', hi') :: ss)
    else
      let rest :=
        if hi' < hi then diff ((next hi', hi) :: rs) ss else diff rs ((lo', hi') :: ss)
      if lo < lo' then (lo, previous lo') :: rest else rest
termination_by rs ss => rs.length + ss.length

/-- The code points of exactly one of two sets. -/
def symmDiff (rs ss : Ranges) : Ranges := (rs.union ss).diff (rs.inter ss)

/-- A range by its ends in either order. -/
def between (a b : Nat) : Nat × Nat := if a ≤ b then (a, b) else (b, a)

/-- The gaps between ranges, and what follows the last one; `hi` is the end of
the range before. -/
def gapsAfter (hi : Nat) : Ranges → Ranges
  | [] => if hi < lastCodePoint then [between (next hi) lastCodePoint] else []
  | (lo', hi') :: rest => between (next hi) (previous lo') :: gapsAfter hi' rest

/-- The characters outside a set.  The gap between ranges that end and begin at
the surrogates holds no character; it is taken as the two ends. -/
def complement : Ranges → Ranges
  | [] => [(0, lastCodePoint)]
  | (lo, hi) :: rest =>
    if 0 < lo then (0, previous lo) :: gapsAfter hi rest else gapsAfter hi rest

end Ranges

/-! ### Tables -/

/-- The value of a hexadecimal digit; anything else counts as zero. -/
def hexDigit (c : Char) : Nat :=
  if '0' ≤ c ∧ c ≤ '9' then c.toNat - '0'.toNat
  else if 'A' ≤ c ∧ c ≤ 'F' then c.toNat - 'A'.toNat + 10
  else if 'a' ≤ c ∧ c ≤ 'f' then c.toNat - 'a'.toNat + 10
  else 0

/-- The number that a row of hexadecimal digits denotes. -/
def hexNat (digits : List Char) : Nat :=
  digits.foldl (fun n c => 16 * n + hexDigit c) 0

/-- The words of a table: runs of characters other than spaces and line ends. -/
def tableWords (text : String) : List (List Char) :=
  Text.words (fun c => c = ' ' || c = '\n') text.toList

/-- The range that one word of a table stands for. -/
def rangeOfWord (word : List Char) : Nat × Nat :=
  match word.splitOn '-' with
  | [lo, hi] => (hexNat lo, hexNat hi)
  | _ => (hexNat word, hexNat word)

/-- The ranges written in a table. -/
def Ranges.ofText (text : String) : Ranges := (tableWords text).map rangeOfWord

/-- A function on code points that is constant on long stretches: the starts of
the stretches, in increasing order, with the value on each. -/
abbrev Runs (α : Type) := List (Nat × α)

namespace Runs

/-- The stretches written in a table, one word `start=code` each. -/
def ofText {α : Type} (decode : String → α) (text : String) : Runs α :=
  (tableWords text).map fun word =>
    match word.splitOn '=' with
    | [start, code] => (hexNat start, decode (String.ofList code))
    | _ => (0, decode "")

/-- The stretches whose value passes a test. -/
def stretchesWhere {α : Type} (keep : α → Bool) : Runs α → Ranges
  | [] => []
  | [(start, a)] => if keep a then [(start, lastCodePoint)] else []
  | (start, a) :: (stop, b) :: rest =>
    let others := stretchesWhere keep ((stop, b) :: rest)
    if keep a then (start, stop - 1) :: others else others

/-- The code points whose value passes a test. -/
def rangesWhere {α : Type} (runs : Runs α) (keep : α → Bool) : Ranges :=
  Ranges.join (runs.stretchesWhere keep)

end Runs

end Unicode
end RecordQuery
