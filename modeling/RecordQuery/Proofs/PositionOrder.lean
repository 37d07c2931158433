/-
# Lists in the order of positions

A walk through a tree meets its items at positions, rows of numbers, in lexicographic order.
A list is in the order of positions if its items are those met by such a walk (`InOrder`);
which item stands where is then a relation, and says of two items which is listed first
(`InOrder.pair_sublist_iff`).

Such lists are closed under what trees are flattened with: changing the items, putting one in
front, and putting lists one after the other, where the number of a list becomes the first
number of a position (`InOrder.flatMap`).  Dropping repeats leaves every item at its least
position (`InOrder.firstOccurrences`).
-/

import Mathlib.Data.List.Lex
import Mathlib.Order.Bounds.Defs
import Mathlib.Tactic.Choose
import RecordQuery.Record.Paths

namespace RecordQuery

/-- The items of a list stand at positions in strictly increasing order, and `R` says which
item stands where. -/
def InOrder {α : Type} (R : List Nat → α → Prop) (as : List α) : Prop :=
  ∃ walk : List (List Nat × α), walk.map Prod.snd = as ∧
    walk.Pairwise (fun here there => here.1 < there.1) ∧
      ∀ position a, (position, a) ∈ walk ↔ R position a

namespace InOrder

variable {α β : Type} {R : List Nat → α → Prop} {as : List α}

/-- An item of the list is one that stands somewhere. -/
theorem mem_iff (h : InOrder R as) {a : α} : a ∈ as ↔ ∃ position, R position a := by
  obtain ⟨walk, rfl, -, hwalk⟩ := h
  simp only [List.mem_map, Prod.exists, exists_eq_right, hwalk]

/-- It is enough to say at which positions the items stand. -/
theorem congr {S : List Nat → α → Prop} (h : InOrder R as)
    (hRS : ∀ position a, S position a ↔ R position a) : InOrder S as := by
  obtain ⟨walk, has, hsorted, hwalk⟩ := h
  exact ⟨walk, has, hsorted, fun position a => (hwalk position a).trans (hRS position a).symm⟩

/-- Changing the items leaves them where they are. -/
theorem map (h : InOrder R as) (f : α → β) :
    InOrder (fun position b => ∃ a, R position a ∧ f a = b) (as.map f) := by
  obtain ⟨walk, rfl, hsorted, hwalk⟩ := h
  refine ⟨walk.map fun place => (place.1, f place.2), ?_, List.pairwise_map.2 hsorted, ?_⟩
  · rw [List.map_map, List.map_map]
    rfl
  · intro position b
    simp only [List.mem_map, Prod.exists, Prod.mk.injEq, ← hwalk]
    grind

/-- A first item stands at the empty position, before all others. -/
theorem cons (h : InOrder R as) (hR : ∀ a, ¬R [] a) (first : α) :
    InOrder (fun position a => (position = [] ∧ a = first) ∨ R position a) (first :: as) := by
  obtain ⟨walk, rfl, hsorted, hwalk⟩ := h
  refine ⟨([], first) :: walk, rfl, .cons ?_ hsorted, fun position a => ?_⟩
  · rintro ⟨_ | ⟨i, position⟩, a⟩ hplace
    · exact absurd ((hwalk [] a).1 hplace) (hR a)
    · exact List.nil_lt_cons i position
  · rw [List.mem_cons, Prod.mk.injEq, hwalk]

/-- Lists one after the other: the number of a list is the first number of the position. -/
theorem flatMap {R : α → List Nat → β → Prop} {f : α → List β}
    (h : ∀ a ∈ as, InOrder (R a) (f a)) :
    InOrder (fun position b => ∃ i rest a, position = i :: rest ∧ as[i]? = some a ∧ R a rest b)
      (as.flatMap f) := by
  -- Every list has a walk, and its positions get the number of the list in front.
  choose! walk hf hsorted hwalk using h
  have hmem : ∀ {place : α × Nat}, place ∈ as.zipIdx → place.1 ∈ as := fun hplace =>
    List.fst_mem_of_mem_zipIdx hplace
  have hnumbers : as.zipIdx.Pairwise fun place place' => place.2 < place'.2 := by
    rw [← List.pairwise_map (f := Prod.snd) (R := (· < ·)), List.zipIdx_map_snd]
    exact List.pairwise_lt_range'
  refine ⟨as.zipIdx.flatMap fun place => (walk place.1).map fun inner =>
    (place.2 :: inner.1, inner.2), ?_, List.pairwise_flatMap.2 ⟨fun place hplace => ?_, ?_⟩, ?_⟩
  · have hitems : ∀ place ∈ as.zipIdx, ((walk place.1).map fun inner =>
        (place.2 :: inner.1, inner.2)).map Prod.snd = f place.1 := fun place hplace => by
      rw [← hf place.1 (hmem hplace), List.map_map]
      rfl
    rw [List.map_flatMap, List.flatMap_congr hitems, ← List.flatMap_map Prod.fst f,
      List.zipIdx_map_fst]
  · refine List.pairwise_map.2 ((hsorted _ (hmem hplace)).imp fun hlt => ?_)
    exact List.cons_lt_cons_iff.2 (.inr ⟨rfl, hlt⟩)
  · refine hnumbers.imp fun hlt here hhere there hthere => ?_
    obtain ⟨_, -, rfl⟩ := List.mem_map.1 hhere
    obtain ⟨_, -, rfl⟩ := List.mem_map.1 hthere
    exact List.cons_lt_cons_iff.2 (.inl hlt)
  · intro position b
    simp only [List.mem_flatMap, List.mem_map, Prod.exists, Prod.mk.injEq,
      List.mem_zipIdx_iff_getElem?]
    grind

/-- One item stands before another just if it has an earlier position. -/
theorem pair_sublist_iff (h : InOrder R as) {a b : α} :
    [a, b].Sublist as ↔ ∃ i j, R i a ∧ R j b ∧ i < j := by
  obtain ⟨walk, rfl, hsorted, hwalk⟩ := h
  constructor
  · intro hab
    obtain ⟨places, hplaces, hitems⟩ := List.sublist_map_iff.1 hab
    obtain ⟨here, there, rfl⟩ : ∃ here there, places = [here, there] :=
      List.length_eq_two.1 (by simpa using (congrArg List.length hitems).symm)
    obtain ⟨rfl, rfl⟩ : a = here.2 ∧ b = there.2 := by simpa using hitems
    have hhere : here ∈ walk := hplaces.subset (by simp)
    have hthere : there ∈ walk := hplaces.subset (by simp)
    have hlt := List.pairwise_pair.1 (hsorted.sublist hplaces)
    exact ⟨here.1, there.1, (hwalk ..).1 hhere, (hwalk ..).1 hthere, hlt⟩
  · rintro ⟨i, j, ha, hb, hij⟩
    obtain ⟨before, after, rfl⟩ := List.append_of_mem ((hwalk i a).2 ha)
    obtain ⟨-, hafter, hbefore⟩ := List.pairwise_append.1 hsorted
    have hlater : (j, b) ∈ after := by
      rcases List.mem_append.1 ((hwalk j b).2 hb) with hmem | hmem
      · exact absurd (hbefore _ hmem _ List.mem_cons_self) hij.not_gt
      · rcases List.mem_cons.1 hmem with heq | hmem
        · exact absurd (congrArg Prod.fst heq).symm hij.ne
        · exact hmem
    have hplaces : [(i, a), (j, b)].Sublist (before ++ (i, a) :: after) :=
      ((List.singleton_sublist.2 hlater).cons_cons _).trans (List.sublist_append_right ..)
    exact hplaces.map Prod.snd

end InOrder

/-- Repeats can be dropped before or after the items are changed, if they are compared as
changed. -/
theorem map_dropRepeats {α β : Type} (f : α → β) (same : β → β → Bool) (seen as : List α) :
    (dropRepeats (fun a b => same (f a) (f b)) seen as).map f =
      dropRepeats same (seen.map f) (as.map f) := by
  induction as generalizing seen with
  | nil => rfl
  | cons a as ih =>
    rw [List.map_cons, dropRepeats, dropRepeats, List.any_map, Function.comp_def]
    split
    · exact ih seen
    · rw [List.map_cons, ih, List.map_append, List.map_singleton]

/-- Of the items of a walk those are kept that are new and at their least position. -/
theorem mem_dropRepeats_iff_of_sorted {α : Type} [BEq α] [LawfulBEq α]
    {seen walk : List (List Nat × α)} {place : List Nat × α}
    (hsorted : walk.Pairwise fun here there => here.1 < there.1) :
    place ∈ dropRepeats (fun here there => here.2 == there.2) seen walk ↔
      place ∈ walk ∧ (∀ old ∈ seen, old.2 ≠ place.2) ∧
        ∀ other ∈ walk, other.2 = place.2 → place.1 ≤ other.1 := by
  induction walk generalizing seen with
  | nil => simp [dropRepeats]
  | cons first walk ih =>
    obtain ⟨hfirst, hsorted⟩ := List.pairwise_cons.1 hsorted
    rw [dropRepeats]
    split
    · rename_i hrepeat
      obtain ⟨old, hold, heq⟩ := List.any_eq_true.1 hrepeat
      have heq : old.2 = first.2 := eq_of_beq heq
      rw [ih hsorted, List.mem_cons, List.forall_mem_cons]
      constructor
      · rintro ⟨hmem, hunseen, hleast⟩
        exact ⟨.inr hmem, hunseen, fun h => absurd (heq.trans h) (hunseen old hold), hleast⟩
      · rintro ⟨rfl | hmem, hunseen, -, hleast⟩
        · exact absurd heq (hunseen old hold)
        · exact ⟨hmem, hunseen, hleast⟩
    · rename_i hnew
      have hnew : ∀ old ∈ seen, old.2 ≠ first.2 := fun old hold heq =>
        hnew (List.any_eq_true.2 ⟨old, hold, beq_iff_eq.2 heq⟩)
      rw [List.mem_cons, ih hsorted, List.forall_mem_append, List.forall_mem_singleton,
        List.mem_cons, List.forall_mem_cons]
      constructor
      · rintro (rfl | ⟨hmem, ⟨hunseen, hother⟩, hleast⟩)
        · exact ⟨.inl rfl, hnew, fun _ => le_rfl, fun other hmem _ => (hfirst other hmem).le⟩
        · exact ⟨.inr hmem, hunseen, fun h => absurd h hother, hleast⟩
      · rintro ⟨rfl | hmem, hunseen, hbefore, hleast⟩
        · exact .inl rfl
        · have hother : first.2 ≠ place.2 := fun h => (hfirst place hmem).not_ge (hbefore h)
          exact .inr ⟨hmem, ⟨hunseen, hother⟩, hleast⟩

/-- **Dropping repeats leaves every item at its least position.** -/
theorem InOrder.firstOccurrences {α : Type} [BEq α] [LawfulBEq α] {R : List Nat → α → Prop}
    {as : List α} (h : InOrder R as) :
    InOrder (fun position a => IsLeast (R · a) position) (firstOccurrences (· == ·) as) := by
  obtain ⟨walk, rfl, hsorted, hwalk⟩ := h
  refine ⟨dropRepeats (fun here there => here.2 == there.2) [] walk,
    map_dropRepeats Prod.snd (· == ·) [] walk, hsorted.sublist (dropRepeats_sublist ..), ?_⟩
  intro position a
  have hleast : (∀ other ∈ walk, other.2 = a → position ≤ other.1) ↔
      ∀ other, R other a → position ≤ other := by
    constructor
    · exact fun h other hother => h (other, a) ((hwalk other a).2 hother) rfl
    · rintro h ⟨other, _⟩ hmem rfl
      exact h other ((hwalk ..).1 hmem)
  rw [mem_dropRepeats_iff_of_sorted hsorted, hwalk, hleast]
  exact and_congr_right fun _ => and_iff_right (List.forall_mem_nil _)

end RecordQuery
