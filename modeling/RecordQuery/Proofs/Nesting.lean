/-
# Texts are read back as far as they are nested

The text of a value is its tokens one after the other.  Numbers in it are always separated by
a comma or a bracket, so the tokens are found again (`Json.tokens?_text`).

The machine that takes them holds a frame for every array and object that is open, and refuses
to open one beyond its limit.  What is open while a value is read is what was open before it
and what is nested in it, so the value is finished if both together stay within the limit, and
refused if they do not (`Json.Reading.takes_of_distinct`).  Members are put one by one under
their names, which only appends them if no name occurs twice; that is all that is asked of a
value.
-/

import RecordQuery.Proofs.RecordGrammar
import RecordQuery.Proofs.TokenText

namespace RecordQuery

/-- Putting under a new name appends. -/
theorem Entries.put_of_notMem {α : Type} {entries : Entries α} {name : String}
    (h : name ∉ entries.names) (a : α) : entries.put name a = entries ++ [(name, a)] := by
  induction entries with
  | nil => rfl
  | cons entry entries ih =>
    obtain ⟨hne, hrest⟩ := not_or.1 (mt List.mem_cons.2 h)
    rw [put, if_neg (Ne.symm hne), ih hrest, List.cons_append]

namespace Json

/-! ### Numbers are apart -/

/-- Tokens without neighbouring numbers that may follow a number. -/
structure Separate (ts : List Token) : Prop where
  isChain : ts.IsChain Token.Apart
  isNumber_head : ∀ t ∈ ts.head?, t.isNumber = false

variable {t : Token} {ts row : List Token}

/-- A token that is no number may stand before and after numbers. -/
theorem Separate.cons (ht : t.isNumber = false) (hts : ts.IsChain Token.Apart) :
    Separate (t :: ts) where
  isChain := List.isChain_cons.2 ⟨fun _ _ hnumber => absurd hnumber (by simp [ht]), hts⟩
  isNumber_head := by
    rintro _ ⟨⟩
    exact ht

/-- What may follow a number may follow any row. -/
theorem Separate.isChain_append (h : Separate ts) (hrow : row.IsChain Token.Apart) :
    (row ++ ts).IsChain Token.Apart :=
  List.isChain_append.2 ⟨hrow, h.isChain, fun _ _ next hnext _ => h.isNumber_head next hnext⟩

/-- Behind an item comes a comma or a bracket. -/
theorem separate_moreItemTokens {items : List Json}
    (h : ∀ item ∈ items, item.tokens.IsChain Token.Apart) : Separate (moreItemTokens items) := by
  induction items with
  | nil => exact .cons rfl .nil
  | cons item items ih =>
    obtain ⟨hitem, hitems⟩ := List.forall_mem_cons.1 h
    exact .cons rfl ((ih hitems).isChain_append hitem)

/-- Behind a member comes a comma or a bracket. -/
theorem separate_moreMemberTokens {members : List (String × Json)}
    (h : ∀ member ∈ members, member.2.tokens.IsChain Token.Apart) :
    Separate (moreMemberTokens members) := by
  induction members with
  | nil => exact .cons rfl .nil
  | cons member members ih =>
    obtain ⟨hmember, hmembers⟩ := List.forall_mem_cons.1 h
    have hvalue := (ih hmembers).isChain_append hmember
    exact .cons rfl (Separate.cons rfl (Separate.cons rfl hvalue).isChain).isChain

/-- **No two numbers are neighbours** among the tokens of a value. -/
theorem isChain_tokens (value : Json) : value.tokens.IsChain Token.Apart := by
  induction value using Json.induction with
  | leaf value hleaf =>
    cases value with
    | array items => cases hleaf
    | object members => cases hleaf
    | _ => exact .singleton _
  | array items ih =>
    refine (Separate.cons rfl ?_).isChain
    cases items with
    | nil => exact .singleton _
    | cons item items =>
      obtain ⟨hitem, hitems⟩ := List.forall_mem_cons.1 ih
      exact (separate_moreItemTokens hitems).isChain_append hitem
  | object members ih =>
    refine (Separate.cons rfl ?_).isChain
    cases members with
    | nil => exact .singleton _
    | cons member members =>
      obtain ⟨hmember, hmembers⟩ := List.forall_mem_cons.1 ih
      have hvalue := (separate_moreMemberTokens hmembers).isChain_append hmember
      exact (Separate.cons rfl (Separate.cons rfl hvalue).isChain).isChain

/-- **The tokens of a text are found again.** -/
theorem tokens?_text (value : Json) : tokens? value.text.toList = some value.tokens := by
  rw [text, String.toList_ofList, tokens?_flatMap_written (isChain_tokens value)]

/-! ### Nesting -/

mutual

/-- How many arrays and objects are nested in a value, itself included. -/
def nesting : Json → Nat
  | .array items => nestingOfItems items + 1
  | .object members => nestingOfMembers members + 1
  | _ => 0

/-- The largest nesting of an item. -/
def nestingOfItems : List Json → Nat
  | [] => 0
  | item :: items => max item.nesting (nestingOfItems items)

/-- The largest nesting of the value of a member. -/
def nestingOfMembers : List (String × Json) → Nat
  | [] => 0
  | (_, value) :: members => max value.nesting (nestingOfMembers members)

end

/-! ### The machine -/

namespace Reading

/-- What reading a value comes to: it is finished if it is not nested too deeply in what is
open. -/
def result (limit : Nat) (stack : List Frame) (value : Json) : Option Reading :=
  if stack.length + value.nesting ≤ limit then finish value stack else none

/-- The tokens of a value are taken up to its end, whatever is open. -/
def Takes (limit : Nat) (value : Json) : Prop :=
  ∀ stack : List Frame, stack.length ≤ limit →
    value.tokens.foldlM (step? limit) (.value stack) = result limit stack value

variable {limit : Nat} {stack : List Frame} {value : Json}

/-- Opening an array or object within the limit. -/
theorem step?_openArray (stack : List Frame) : step? limit (.value stack) .openArray =
    if stack.length < limit then some (.firstItem (.items [] :: stack)) else none := rfl

/-- Likewise for an object. -/
theorem step?_openObject (stack : List Frame) : step? limit (.value stack) .openObject =
    if stack.length < limit then some (.firstName (.members [] :: stack)) else none := rfl

/-! #### Arrays -/

/-- The first item of an array, or its end, is taken as it would be after a comma. -/
theorem foldlM_itemTokens (items : List Json) :
    (itemTokens items).foldlM (step? limit) (.firstItem (.items [] :: stack)) =
      (moreItemTokens items).foldlM (step? limit) (.more (.items [] :: stack)) := by
  cases items with
  | nil => rfl
  | cons item items =>
    -- No value begins with the end of the array.
    have hfirst : item.tokens.foldlM (step? limit) (.firstItem (.items [] :: stack)) =
        item.tokens.foldlM (step? limit) (.value (.items [] :: stack)) := by
      cases item <;> rfl
    show (item.tokens ++ moreItemTokens items).foldlM (step? limit) _ =
      (item.tokens ++ moreItemTokens items).foldlM (step? limit) (.value (.items [] :: stack))
    rw [List.foldlM_append, List.foldlM_append, hfirst]

/-- The items that follow those in `done` are taken one by one, and end their array. -/
theorem foldlM_moreItemTokens {items : List Json} (h : ∀ item ∈ items, Takes limit item)
    (hstack : stack.length < limit) (done : List Json) :
    (moreItemTokens items).foldlM (step? limit) (.more (.items done :: stack)) =
      if stack.length + 1 + nestingOfItems items ≤ limit then
        finish (.array (done.reverse ++ items)) stack else none := by
  induction items generalizing done with
  | nil =>
    rw [nestingOfItems, if_pos (by omega), List.append_nil]
    exact bind_pure _
  | cons item items ih =>
    obtain ⟨hitem, hitems⟩ := List.forall_mem_cons.1 h
    have htake := hitem (.items done :: stack) hstack
    rw [result, List.length_cons] at htake
    show (item.tokens ++ moreItemTokens items).foldlM (step? limit)
      (.value (.items done :: stack)) = _
    rw [List.foldlM_append, htake, nestingOfItems]
    by_cases hfits : stack.length + 1 + item.nesting ≤ limit
    · rw [if_pos hfits]
      show (moreItemTokens items).foldlM (step? limit)
        (.more (.items (item :: done) :: stack)) = _
      rw [ih hitems, List.reverse_cons, List.append_assoc, List.singleton_append]
      exact if_congr (by omega) rfl rfl
    · rw [if_neg hfits, if_neg (by omega)]
      rfl

/-- **An array is taken if its items are,** with one more container open. -/
theorem Takes.array {items : List Json} (h : ∀ item ∈ items, Takes limit item) :
    Takes limit (.array items) := by
  intro stack hstack
  rw [result, nesting, tokens, List.foldlM_cons, step?_openArray]
  by_cases hopen : stack.length < limit
  · rw [if_pos hopen]
    show (itemTokens items).foldlM (step? limit) (.firstItem (.items [] :: stack)) = _
    rw [foldlM_itemTokens, foldlM_moreItemTokens h hopen]
    exact if_congr (by omega) rfl rfl
  · rw [if_neg hopen, if_neg (by omega)]
    rfl

/-! #### Objects -/

/-- The first member of an object, or its end, is taken as it would be after a comma. -/
theorem foldlM_memberTokens (members : List (String × Json)) :
    (memberTokens members).foldlM (step? limit) (.firstName (.members [] :: stack)) =
      (moreMemberTokens members).foldlM (step? limit) (.more (.members [] :: stack)) := by
  cases members <;> rfl

/-- The members that follow those in `done` are taken one by one, and end their object.  None
of them replaces another one, so they are appended. -/
theorem foldlM_moreMemberTokens {members : List (String × Json)}
    (h : ∀ member ∈ members, Takes limit member.2) (hstack : stack.length < limit)
    (done : Entries Json) (hnames : (Entries.names (done ++ members)).Nodup) :
    (moreMemberTokens members).foldlM (step? limit) (.more (.members done :: stack)) =
      if stack.length + 1 + nestingOfMembers members ≤ limit then
        finish (.object (done ++ members)) stack else none := by
  induction members generalizing done with
  | nil =>
    rw [nestingOfMembers, if_pos (by omega), List.append_nil]
    exact bind_pure _
  | cons member members ih =>
    obtain ⟨name, value⟩ := member
    obtain ⟨hvalue, hmembers⟩ := List.forall_mem_cons.1 h
    have htake := hvalue (.member done name :: stack) hstack
    rw [result, List.length_cons] at htake
    have hnew : name ∉ Entries.names done := by
      rw [Entries.names, List.map_append, List.nodup_append] at hnames
      exact fun hmem => hnames.2.2 name hmem name List.mem_cons_self rfl
    show (value.tokens ++ moreMemberTokens members).foldlM (step? limit)
      (.value (.member done name :: stack)) = _
    rw [List.foldlM_append, htake, nestingOfMembers]
    by_cases hfits : stack.length + 1 + value.nesting ≤ limit
    · rw [if_pos hfits]
      show (moreMemberTokens members).foldlM (step? limit)
        (.more (.members (done.put name value) :: stack)) = _
      rw [Entries.put_of_notMem hnew, ih hmembers, List.append_assoc, List.singleton_append]
      · exact if_congr (by omega) rfl rfl
      · rwa [List.append_assoc, List.singleton_append]
    · rw [if_neg hfits, if_neg (by omega)]
      rfl

/-- **An object is taken if the values of its members are.** -/
theorem Takes.object {members : List (String × Json)} (hnames : (Entries.names members).Nodup)
    (h : ∀ member ∈ members, Takes limit member.2) : Takes limit (.object members) := by
  intro stack hstack
  rw [result, nesting, tokens, List.foldlM_cons, step?_openObject]
  by_cases hopen : stack.length < limit
  · rw [if_pos hopen]
    show (memberTokens members).foldlM (step? limit) (.firstName (.members [] :: stack)) = _
    rw [foldlM_memberTokens, foldlM_moreMemberTokens h hopen [] hnames]
    exact if_congr (by omega) rfl rfl
  · rw [if_neg hopen, if_neg (by omega)]
    rfl

/-! #### Values -/

/-- **A value without repeated names is taken,** whatever is open. -/
theorem takes_of_distinct (h : value.Distinct) : Takes limit value := by
  have hleaf : ∀ {leaf : Json}, leaf.nesting = 0 → (∀ stack : List Frame,
      leaf.tokens.foldlM (step? limit) (.value stack) = finish leaf stack) → Takes limit leaf :=
    fun hnesting hfinish stack hstack => by
      rw [hfinish, result, hnesting, Nat.add_zero, if_pos hstack]
  induction h with
  | array _ ih => exact Takes.array ih
  | object hnames _ ih => exact Takes.object hnames ih
  | _ => exact hleaf rfl fun stack => bind_pure _

end Reading

variable {value : Json}

/-- So a value is read from its tokens if it is not nested beyond the limit. -/
theorem ofTokens?_tokens (h : value.Distinct) (limit : Nat) :
    ofTokens? limit value.tokens = if value.nesting ≤ limit then some value else none := by
  rw [ofTokens?, Reading.takes_of_distinct h [] (Nat.zero_le limit), Reading.result,
    List.length_nil, Nat.zero_add]
  by_cases hfits : value.nesting ≤ limit
  · rw [if_pos hfits, if_pos hfits]
    rfl
  · rw [if_neg hfits, if_neg hfits]

/-- **The text of a value is read back** if at most 127 arrays and objects are nested in it, and
refused if there are more. -/
theorem ofText?_text (h : value.Distinct) :
    ofText? value.text = if value.nesting ≤ maxNesting then some value else none := by
  rw [ofText?, tokens?_text]
  exact ofTokens?_tokens h maxNesting

end Json
end RecordQuery
