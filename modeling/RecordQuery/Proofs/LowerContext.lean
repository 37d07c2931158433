/-
# Lower case in a context

Lowering goes character by character, but a `Σ` is lowered to one of two letters, and which
one depends on the text around it (`Text.endsWord`).  A part of a text is therefore lowered in
its place (`Text.lowerIn`), and that is as by itself exactly if each `Σ` in it ends a word
there and by itself alike (`Text.lowersAlike_iff`).

A prefix or a suffix of a text is still one in lower case exactly if it is lowered as by
itself (`Text.startsWith_lowercase_iff`, `Text.endsWith_lowercase_iff`).
-/

import Mathlib.Data.List.Infix
import RecordQuery.Text.Casing
import RecordQuery.Text.Search

namespace RecordQuery

namespace Text

/-- Whether a word ends between two texts, of which the first is given from its end
back: there is a cased character before this place and none after it. -/
def endsWord (before after : List Char) : Bool := meetsCased before && !meetsCased after

/-- The lower case of a text that stands between two others; `before` holds the
characters of the first, the nearest first. -/
def lowerIn (before after : List Char) : List Char → List Char
  | [] => []
  | c :: cs =>
    (if c = 'Σ' then (if endsWord before (cs ++ after) then ['ς'] else ['σ'])
      else lowerChar c) ++ lowerIn (c :: before) after cs

variable {before after before' after' text needle : List Char}

/-- A text is lowered as it stands, with nothing after it. -/
theorem lowerFrom_eq_lowerIn (before text : List Char) :
    lowerFrom before text = lowerIn before [] text := by
  induction text generalizing before with
  | nil => rfl
  | cons c cs ih =>
    rw [lowerFrom, lowerIn, ih, List.append_nil]
    rfl

/-- **Two parts of a text are lowered each in its place.** -/
theorem lowerIn_append (before after first second : List Char) :
    lowerIn before after (first ++ second) =
      lowerIn before (second ++ after) first ++
        lowerIn (first.reverse ++ before) after second := by
  induction first generalizing before with
  | nil => rfl
  | cons c cs ih =>
    rw [List.cons_append, lowerIn, lowerIn, ih, List.append_assoc, List.append_assoc,
      List.reverse_cons, List.append_assoc, List.singleton_append]

/-- The three parts of a text, each lowered in its place. -/
theorem lowercase_eq_append (before needle after : List Char) :
    lowercase (before ++ needle ++ after) =
      lowerIn [] (needle ++ after) before ++ lowerIn before.reverse after needle ++
        lowerIn (needle.reverse ++ before.reverse) [] after := by
  rw [lowercase, lowerFrom_eq_lowerIn, List.append_assoc, lowerIn_append, lowerIn_append]
  simp only [List.append_nil, List.append_assoc]

/-- How long the lower case is does not depend on the context. -/
theorem length_lowerIn (before after before' after' text : List Char) :
    (lowerIn before after text).length = (lowerIn before' after' text).length := by
  induction text generalizing before before' with
  | nil => rfl
  | cons c cs ih =>
    rw [lowerIn, lowerIn, List.length_append, List.length_append,
      ih (c :: before) (c :: before')]
    congr 1
    split
    · split <;> split <;> rfl
    · rfl

/-- **Only whether a word ends at each `Σ` counts of the context.** -/
theorem lowerIn_eq_iff : lowerIn before after text = lowerIn before' after' text ↔
    ∀ first rest, text = first ++ 'Σ' :: rest →
      endsWord (first.reverse ++ before) (rest ++ after) =
        endsWord (first.reverse ++ before') (rest ++ after') := by
  induction text generalizing before before' with
  | nil => simp [lowerIn]
  | cons c cs ih =>
    have hlength := length_lowerIn (c :: before) after (c :: before') after' cs
    constructor
    · intro h first rest htext
      rw [lowerIn, lowerIn] at h
      obtain ⟨hhead, htail⟩ := List.append_inj' h hlength
      cases first with
      | nil =>
        obtain ⟨rfl, rfl⟩ := List.cons.inj htext
        rw [if_pos rfl, if_pos rfl] at hhead
        cases hends : endsWord before (cs ++ after) <;>
          cases hends' : endsWord before' (cs ++ after') <;> simp_all
      | cons d first =>
        obtain ⟨rfl, rfl⟩ := List.cons.inj htext
        simpa using ih.1 htail first rest rfl
    · intro h
      have htail := ih.2 fun first rest htext => by
        simpa using h (c :: first) rest (congrArg (c :: ·) htext)
      rw [lowerIn, lowerIn, htail]
      congr 1
      by_cases hc : c = 'Σ'
      · subst hc
        have hends := h [] cs rfl
        rw [List.reverse_nil, List.nil_append, List.nil_append] at hends
        rw [hends]
      · rw [if_neg hc, if_neg hc]

/-- Whether a text is lowered between two others as by itself: each `Σ` in it ends a word
there if it ends one in the text alone, and only then. -/
def LowersAlike (before needle after : List Char) : Prop :=
  ∀ first rest, needle = first ++ 'Σ' :: rest →
    endsWord (first.reverse ++ before.reverse) (rest ++ after) = endsWord first.reverse rest

/-- **A text is lowered in its place as by itself** exactly if each `Σ` is. -/
theorem lowersAlike_iff : LowersAlike before needle after ↔
    lowerIn before.reverse after needle = lowercase needle := by
  rw [lowercase, lowerFrom_eq_lowerIn, lowerIn_eq_iff, LowersAlike]
  simp only [List.append_nil]

/-- A text without a `Σ` is lowered everywhere as by itself. -/
theorem lowersAlike_of_not_mem (h : 'Σ' ∉ needle) (before after : List Char) :
    LowersAlike before needle after := by
  rintro first rest rfl
  exact absurd (List.mem_append_right _ List.mem_cons_self) h

/-- Where a text is lowered as by itself, its lower case occurs too. -/
theorem LowersAlike.occursIn (h : LowersAlike before needle after) :
    occursIn (lowercase needle) (lowercase (before ++ needle ++ after)) := by
  rw [lowercase_eq_append, lowersAlike_iff.1 h]
  exact occursIn_iff.2 ⟨_, _, rfl⟩

/-- The lower case of a text is as long as in any place. -/
theorem length_lowercase (before after text : List Char) :
    (lowercase text).length = (lowerIn before after text).length := by
  rw [lowercase, lowerFrom_eq_lowerIn]
  exact length_lowerIn ..

/-- **A prefix stays one in lower case exactly if it is lowered as by itself.** -/
theorem startsWith_lowercase_iff (needle after : List Char) :
    startsWith (lowercase (needle ++ after)) (lowercase needle) ↔ LowersAlike [] needle after := by
  have hparts : lowercase (needle ++ after) =
      lowerIn [] after needle ++ lowerIn needle.reverse [] after := by
    simpa [lowerIn] using lowercase_eq_append [] needle after
  rw [startsWith, List.isPrefixOf_iff_prefix, List.prefix_iff_eq_take, hparts,
    length_lowercase [] after, List.take_left, lowersAlike_iff, List.reverse_nil, eq_comm]

/-- **A suffix stays one in lower case exactly if it is lowered as by itself.** -/
theorem endsWith_lowercase_iff (before needle : List Char) :
    endsWith (lowercase (before ++ needle)) (lowercase needle) ↔ LowersAlike before needle [] := by
  have hparts : lowercase (before ++ needle) =
      lowerIn [] needle before ++ lowerIn before.reverse [] needle := by
    simpa [lowerIn] using lowercase_eq_append before needle []
  rw [endsWith, List.isSuffixOf_iff_suffix, List.suffix_iff_eq_drop, hparts,
    length_lowercase before.reverse [], List.length_append, Nat.add_sub_cancel, List.drop_left,
    lowersAlike_iff, eq_comm]

end Text

end RecordQuery
