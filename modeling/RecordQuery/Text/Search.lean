/-
# Looking for a text inside another

A text occurs in another if the other starts with it somewhere.
-/

namespace RecordQuery
namespace Text

/-- Whether `needle` occurs in a text. -/
def occursIn (needle : List Char) : List Char → Bool
  | [] => needle.isEmpty
  | c :: cs => needle.isPrefixOf (c :: cs) || occursIn needle cs

/-- Whether a text starts with `needle`. -/
def startsWith (text needle : List Char) : Bool := needle.isPrefixOf text

/-- Whether a text ends with `needle`. -/
def endsWith (text needle : List Char) : Bool := needle.isSuffixOf text

/-- **A text occurs exactly where it stands between two others.** -/
theorem occursIn_iff {needle text : List Char} :
    occursIn needle text = true ↔ ∃ before after, text = before ++ needle ++ after := by
  induction text with
  | nil =>
    simp only [occursIn, List.isEmpty_iff]
    constructor
    · rintro rfl; exact ⟨[], [], rfl⟩
    · rintro ⟨before, after, h⟩; simp at h; exact h.2.1
  | cons c cs ih =>
    simp only [occursIn, Bool.or_eq_true, ih, List.isPrefixOf_iff_prefix]
    constructor
    · rintro (⟨after, h⟩ | ⟨before, after, rfl⟩)
      · exact ⟨[], after, by simp [h]⟩
      · exact ⟨c :: before, after, by simp⟩
    · rintro ⟨before, after, h⟩
      cases before with
      | nil => exact .inl ⟨after, by simpa using h.symm⟩
      | cons b before =>
        simp only [List.cons_append, List.cons.injEq] at h
        exact .inr ⟨before, after, h.2⟩

end Text
end RecordQuery
