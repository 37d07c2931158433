/-
# Words

The words of a text are what stands between its blanks, where any run of blanks
counts as one gap.  `words_append_blank` says how a text falls apart at a blank
and `words_of_forall_not_blank` that nothing else does.
-/

namespace RecordQuery
namespace Text

/-- The words of a text: its maximal runs of characters that are not blank. -/
def words (blank : Char → Bool) (text : List Char) : List (List Char) :=
  (text.splitOnP blank).filter (!·.isEmpty)

/-- An empty text has no words. -/
theorem words_nil (blank : Char → Bool) : words blank [] = [] := rfl

/-- **Words split at a blank.** -/
theorem words_append_blank {blank : Char → Bool} {c : Char} (hc : blank c = true)
    (before after : List Char) :
    words blank (before ++ c :: after) = words blank before ++ words blank after := by
  simp [words, List.splitOnP_append_cons before after hc]

/-- A text without blanks is one word, unless it is empty. -/
theorem words_of_forall_not_blank {blank : Char → Bool} {text : List Char}
    (h : ∀ c ∈ text, blank c = false) (hne : text ≠ []) : words blank text = [text] := by
  simp [words, List.splitOnP_eq_singleton h, hne]

example : words (· = ' ') [' ', 'a', ' ', ' ', 'b', 'c'] = [['a'], ['b', 'c']] := by decide

end Text
end RecordQuery
