/-
# Segments: names joined by two underscores

A path through a record is written as the names on it joined by `__`.  The text
is cut at every `__`, from the left and without overlap, so `a___b` is `a` and
`_b`.  A name that holds `__` itself could not be found again, which is why no
field may have one.  Cutting loses nothing: `join_split`.
-/

import RecordQuery.Text.Search

namespace RecordQuery
namespace Segments

/-- What stands between two segments. -/
def separator : String := "__"

/-- Whether a name holds the separator. -/
def isSplit (name : String) : Bool := Text.occursIn separator.toList name.toList

/-- The pieces between the separators of a text. -/
def cut : List Char → List (List Char)
  | [] => [[]]
  | '_' :: '_' :: cs => [] :: cut cs
  | c :: cs =>
    match cut cs with
    | [] => [[c]]
    | piece :: pieces => (c :: piece) :: pieces

/-- The segments of a text. -/
def split (text : String) : List String := (cut text.toList).map String.ofList

/-- The text of a list of segments. -/
def join (segments : List String) : String := separator.intercalate segments

/-- Cutting leaves a piece, if only an empty one. -/
theorem cut_ne_nil (cs : List Char) : cut cs ≠ [] := by
  fun_cases cut cs <;> simp

/-- A text has segments. -/
theorem split_ne_nil (text : String) : split text ≠ [] := by
  simp [split, cut_ne_nil]

/-- Putting the separator between the pieces gives back what was cut. -/
theorem intercalate_cut (cs : List Char) : separator.toList.intercalate (cut cs) = cs := by
  fun_induction cut cs with
  | case1 => rfl
  | case2 cs ih =>
    obtain ⟨piece, pieces, h⟩ := List.exists_cons_of_ne_nil (cut_ne_nil cs)
    rw [h] at ih ⊢
    rw [List.intercalate_cons_cons, ih]
    rfl
  | case3 c cs _ h => exact absurd h (cut_ne_nil cs)
  | case4 c cs _ piece pieces h ih =>
    rw [h] at ih
    cases pieces with
    | nil => simp_all
    | cons next pieces =>
      rw [List.intercalate_cons_cons] at ih ⊢
      simp [← ih]

/-- **The segments of a text, joined again, are the text.** -/
theorem join_split (text : String) : join (split text) = text := by
  have h := intercalate_cut text.toList
  apply String.toList_injective
  simp [join, split, String.toList_intercalate, h, Function.comp_def]

example : split "a___b" = ["a", "_b"] := by decide +kernel

end Segments
end RecordQuery
