/-
# The grammar of keys

A key is read as its pieces between separators, and its last piece, if that is
registered, is the lookup and not a segment.  This loses nothing: a key that is parsed is
its segments joined again, followed by the name of the lookup if it was written
(`KeyPath.key_eq_of_parse`).  A key that is not parsed is empty, or has no segments, or
has an empty one (`KeyPath.parse_eq_error_iff`).

Conversely names come back as the segments they were joined from, whatever lookup
follows them, if none of them is empty, holds the separator or ends in the character
that separators begin with where another piece follows.

A name that holds the separator is never a piece.  It may be registered all the same,
and a key that consists of it alone is then read as a path (`KeyPath.parse_split_name`).
-/

import RecordQuery.Lookup.Predicate
import RecordQuery.Proofs.Registration
import RecordQuery.Proofs.Spelling

namespace RecordQuery
namespace Segments

/-- **No piece holds the separator,** since it would have been cut there. -/
theorem not_infix_of_mem_cut {cs piece : List Char} (h : piece ∈ cut cs) :
    ¬['_', '_'] <:+: piece := by
  fun_induction cut cs generalizing piece with
  | case1 =>
    rw [List.mem_singleton.1 h]
    simp
  | case2 cs ih =>
    rcases List.mem_cons.1 h with rfl | h
    · simp
    · exact ih h
  | case3 c cs hnot hcut => exact absurd hcut (cut_ne_nil cs)
  | case4 c cs hnot first pieces hcut ih =>
    rcases List.mem_cons.1 h with rfl | h
    · rw [List.infix_cons_iff]
      rintro (hstart | hwithin)
      · -- The piece begins as the text does, and the text does not begin with a separator.
        obtain ⟨rfl, hsecond⟩ := List.cons_prefix_cons.1 hstart
        have htext := intercalate_cut cs
        rw [hcut] at htext
        obtain ⟨first, rfl⟩ := hsecond
        cases pieces <;> exact hnot _ rfl htext.symm
      · exact ih (hcut ▸ List.mem_cons_self) hwithin
    · exact ih (hcut ▸ List.mem_cons_of_mem _ h)

/-- No piece of a key holds the separator. -/
theorem isSplit_of_mem_split {text name : String} (h : name ∈ split text) :
    isSplit name = false := by
  obtain ⟨piece, hpiece, rfl⟩ := List.mem_map.1 h
  rw [isSplit_eq_false_iff, String.toList_ofList]
  exact not_infix_of_mem_cut hpiece

/-- **A key is one piece just if it holds no separator.** -/
theorem split_eq_singleton_iff {key name : String} :
    split key = [name] ↔ key = name ∧ isSplit key = false := by
  constructor
  · intro h
    have hname : key = name := by rw [← join_split key, h, join_singleton]
    exact ⟨hname, hname ▸ isSplit_of_mem_split (h ▸ List.mem_singleton.2 rfl)⟩
  · rintro ⟨rfl, h⟩
    exact split_eq_singleton h

end Segments

namespace KeyPath

variable {registry : Registry} {key : String} {path : KeyPath}

/-- Whether the last piece of a key is registered, so that it names the lookup. -/
def namesLookup (registry : Registry) (key : String) : Bool :=
  (Segments.split key).getLast?.any registry.contains

/-- The two ways to read pieces: with the last one as the lookup, or all as segments. -/
theorem lookupOf_split (registry : Registry) (key : String) :
    (∃ names last lookup, Segments.split key = names ++ [last] ∧ namesLookup registry key ∧
      registry.get? last = some lookup ∧
        lookupOf registry (Segments.split key) = (names, lookup)) ∨
    (namesLookup registry key = false ∧
      lookupOf registry (Segments.split key) = (Segments.split key, registry.default)) := by
  obtain ⟨names, last, hsplit⟩ :=
    (List.eq_nil_or_concat (Segments.split key)).resolve_left (Segments.split_ne_nil key)
  rw [List.concat_eq_append] at hsplit
  rw [namesLookup, hsplit, List.getLast?_concat, lookupOf, List.getLast?_concat,
    List.dropLast_concat, Option.any_some, Option.bind_some, Registry.contains]
  cases hget : registry.get? last with
  | none => exact .inr ⟨rfl, rfl⟩
  | some lookup => exact .inl ⟨names, last, lookup, rfl, rfl, hget, rfl⟩

/-- **A key that is parsed is what it was parsed as, written out.** -/
theorem key_eq_of_parse (hnamed : registry.Named) (h : parse registry key = .ok path) :
    key = if namesLookup registry key then Segments.join (path.segments ++ [path.lookup.name])
      else Segments.join path.segments := by
  obtain ⟨-, hlookup, -⟩ := parse_eq_ok_iff.1 h
  rcases lookupOf_split registry key with ⟨names, last, lookup, hsplit, hnames, hget, hread⟩ |
    ⟨hnames, hread⟩
  · obtain ⟨rfl, rfl⟩ := Prod.mk.inj (hread.symm.trans hlookup)
    rw [if_pos hnames, hnamed last _ hget, ← hsplit, Segments.join_split]
  · obtain ⟨hsegments, -⟩ := Prod.mk.inj (hread.symm.trans hlookup)
    rw [hnames, if_neg Bool.false_ne_true, ← hsegments, Segments.join_split]

/-- Every segment is a piece of the key. -/
theorem mem_split_of_mem_segments (h : parse registry key = .ok path) {name : String}
    (hname : name ∈ path.segments) : name ∈ Segments.split key := by
  obtain ⟨-, hlookup, -⟩ := parse_eq_ok_iff.1 h
  rw [lookupOf] at hlookup
  split at hlookup
  · obtain ⟨hsegments, -⟩ := Prod.mk.inj hlookup
    exact List.dropLast_subset _ (hsegments ▸ hname)
  · obtain ⟨hsegments, -⟩ := Prod.mk.inj hlookup
    exact hsegments ▸ hname

/-- Names in front of a piece that is not cut are the segments of a key. -/
theorem parse_join_piece {names : List String} {last : String}
    (hnames : ∀ name ∈ names, Segments.Spellable name) (hlast : Segments.isSplit last = false)
    {segments : List String} {lookup : Lookup}
    (hread : lookupOf registry (names ++ [last]) = (segments, lookup)) (hne : segments ≠ [])
    (hnonempty : ∀ name ∈ segments, name ≠ "") :
    ∃ path, parse registry (Segments.join (names ++ [last])) = .ok path ∧
      path.segments = segments ∧ path.lookup = lookup := by
  obtain ⟨head, rest, rfl⟩ := List.exists_cons_of_ne_nil hne
  refine ⟨⟨_, head, rest, lookup⟩, parse_eq_ok_iff.2 ⟨rfl, ?_, hnonempty⟩, rfl, rfl⟩
  rw [Segments.split_join hnames, Segments.split_eq_singleton hlast]
  exact hread

/-- A last piece that is registered names the lookup. -/
theorem lookupOf_concat_of_get? (names : List String) {last : String} {lookup : Lookup}
    (h : registry.get? last = some lookup) :
    lookupOf registry (names ++ [last]) = (names, lookup) := by
  rw [lookupOf, List.getLast?_concat, Option.bind_some, h, List.dropLast_concat]

/-- Any other last piece is a segment like those before it. -/
theorem lookupOf_concat_of_get?_eq_none (names : List String) {last : String}
    (h : registry.get? last = none) :
    lookupOf registry (names ++ [last]) = (names ++ [last], registry.default) := by
  rw [lookupOf, List.getLast?_concat, Option.bind_some, h]

/-! ### Keys that are not parsed -/

/-- **Which fault of a key is reported:** that it is empty, then that nothing is left of it
as segments, then that one of them is empty. -/
theorem parse_eq_error_iff {e : LookupError} : parse registry key = .error e ↔
    key = "" ∧ e = .invalidPath key .emptyKey ∨
    key ≠ "" ∧ (lookupOf registry (Segments.split key)).1 = [] ∧ e = .invalidPath key .noField ∨
    key ≠ "" ∧ "" ∈ (lookupOf registry (Segments.split key)).1 ∧
      e = .invalidPath key .emptySegment := by
  rw [parse]
  by_cases hkey : key = ""
  · simp [hkey, eq_comm (b := e)]
  · obtain ⟨⟨segments, lookup⟩, hread⟩ : ∃ read, lookupOf registry (Segments.split key) = read :=
      ⟨_, rfl⟩
    rw [if_neg hkey, hread]
    cases segments with
    | nil => simp [hkey, eq_comm (b := e)]
    | cons head rest =>
      have hany : ((head :: rest).any fun name => name = "") ↔ "" ∈ head :: rest := by simp
      dsimp only
      by_cases hmem : "" ∈ head :: rest
      · rw [if_pos (hany.2 hmem)]
        simp only [hkey, hmem, Except.error.injEq, eq_comm (b := e), ne_eq, not_false_eq_true,
          false_and, reduceCtorEq, and_false, true_and, false_or]
      · rw [if_neg (hany.not.2 hmem)]
        simp [hkey, hmem]

/-- An empty name among the pieces of a key that are segments is an empty piece other than
a registered last one. -/
theorem empty_mem_segments_iff : "" ∈ (lookupOf registry (Segments.split key)).1 ↔
    ∃ before after, Segments.split key = before ++ "" :: after ∧
      (after = [] → ¬registry.contains "") := by
  rcases lookupOf_split registry key with ⟨names, last, lookup, hsplit, -, hget, hread⟩ |
    ⟨hnames, hread⟩
  · rw [hread, hsplit]
    constructor
    · intro hmem
      obtain ⟨before, after, rfl⟩ := List.append_of_mem hmem
      exact ⟨before, after ++ [last], by simp, fun h => by simp at h⟩
    · rintro ⟨before, after, hpieces, hlast⟩
      rcases List.eq_nil_or_concat after with rfl | ⟨after, piece, rfl⟩
      · obtain ⟨-, rfl⟩ := List.append_inj' hpieces rfl |>.imp_right List.singleton_inj.1
        exact absurd (Option.isSome_iff_exists.2 ⟨lookup, hget⟩) (hlast rfl)
      · rw [List.concat_eq_append, ← List.cons_append, ← List.append_assoc] at hpieces
        obtain ⟨rfl, -⟩ := List.append_inj' hpieces rfl
        exact List.mem_append_right _ List.mem_cons_self
  · rw [hread]
    constructor
    · intro (hmem : "" ∈ Segments.split key)
      obtain ⟨before, after, hpieces⟩ := List.append_of_mem hmem
      refine ⟨before, after, hpieces, ?_⟩
      rintro rfl
      rw [namesLookup, hpieces, List.getLast?_concat, Option.any_some] at hnames
      exact Bool.eq_false_iff.1 hnames
    · rintro ⟨before, after, hpieces, -⟩
      exact hpieces ▸ List.mem_append_right _ List.mem_cons_self

/-- A key has no segments if it is one piece that is registered. -/
theorem segments_eq_nil_iff : (lookupOf registry (Segments.split key)).1 = [] ↔
    registry.contains key ∧ Segments.isSplit key = false := by
  rcases lookupOf_split registry key with ⟨names, last, lookup, hsplit, -, hget, hread⟩ |
    ⟨hnames, hread⟩
  · rw [hread]
    constructor
    · rintro rfl
      obtain ⟨rfl, hunsplit⟩ := Segments.split_eq_singleton_iff.1 hsplit
      exact ⟨Option.isSome_iff_exists.2 ⟨lookup, hget⟩, hunsplit⟩
    · rintro ⟨-, hunsplit⟩
      rw [Segments.split_eq_singleton hunsplit, ← List.nil_append [key]] at hsplit
      exact (List.append_inj' hsplit rfl).1.symm
  · rw [hread]
    refine iff_of_false (Segments.split_ne_nil key) ?_
    rintro ⟨hcontains, hunsplit⟩
    rw [namesLookup, Segments.split_eq_singleton hunsplit, List.getLast?_singleton,
      Option.any_some, hcontains] at hnames
    exact Bool.noConfusion hnames

/-- **A key is not parsed** just if it is empty, or a registered name without separators,
or has an empty piece other than a registered last one. -/
theorem exists_parse_error_iff : (∃ e, parse registry key = .error e) ↔
    key = "" ∨ (registry.contains key ∧ Segments.isSplit key = false) ∨
      ∃ before after, Segments.split key = before ++ "" :: after ∧
        (after = [] → ¬registry.contains "") := by
  rw [← segments_eq_nil_iff, ← empty_mem_segments_iff]
  simp only [parse_eq_error_iff, exists_or, exists_and_left, exists_eq, and_true]
  by_cases hkey : key = "" <;> simp [hkey]

/-! ### The grammar -/

/-- **Keys are names joined by the separator, with a registered name at the end or not.**
Let some predicates be registered, under any names.

* A key that is parsed has no segment that is empty or holds the separator, and is its
  segments joined, followed by the name of its lookup just if its last piece is
  registered.
* A key fails to be parsed just if it is empty, or a registered name without separators,
  or has an empty piece other than a registered last one; the error is about its path.
* Spellable names followed by a registered name without separators are parsed as these
  names with the lookup of that name.
* Spellable names followed by one more name, that is not registered, are parsed as all
  these names with the lookup that is registered for equality. -/
theorem parse_grammar (registrations : List Registration) (key : String) :
    let registry := Registry.builtin.registerAll registrations
    (∀ path, parse registry key = .ok path →
      (∀ name ∈ path.segments, name ≠ "" ∧ Segments.isSplit name = false) ∧
        key = if namesLookup registry key then Segments.join (path.segments ++ [path.lookup.name])
          else Segments.join path.segments) ∧
    ((∃ e, parse registry key = .error e) ↔
      key = "" ∨ (registry.contains key ∧ Segments.isSplit key = false) ∨
        ∃ before after, Segments.split key = before ++ "" :: after ∧
          (after = [] → ¬registry.contains "")) ∧
    (∀ e, parse registry key = .error e → ∃ cause, e = .invalidPath key cause) ∧
    (∀ names last lookup, names ≠ [] → (∀ name ∈ names, Segments.Spellable name) →
      Segments.isSplit last = false → registry.get? last = some lookup →
        ∃ path, parse registry (Segments.join (names ++ [last])) = .ok path ∧
          path.segments = names ∧ path.lookup = lookup) ∧
    ∀ names last, (∀ name ∈ names, Segments.Spellable name) → last ≠ "" →
      Segments.isSplit last = false → registry.get? last = none →
        ∃ path, parse registry (Segments.join (names ++ [last])) = .ok path ∧
          path.segments = names ++ [last] ∧
            registry.get? (Op.exact .sensitive).name = some path.lookup := by
  intro registry
  refine ⟨fun path h => ⟨fun name hname => ⟨?_, ?_⟩, ?_⟩, exists_parse_error_iff, fun e h => ?_,
    ?_, ?_⟩
  · obtain ⟨-, -, hnonempty⟩ := parse_eq_ok_iff.1 h
    exact hnonempty name hname
  · exact Segments.isSplit_of_mem_split (mem_split_of_mem_segments h hname)
  · exact key_eq_of_parse (Registry.named_builtin.registerAll registrations) h
  · rcases parse_eq_error_iff.1 h with ⟨-, he⟩ | ⟨-, -, he⟩ | ⟨-, -, he⟩ <;> exact ⟨_, he⟩
  · intro names last lookup hne hnames hlast hget
    exact parse_join_piece hnames hlast (lookupOf_concat_of_get? names hget) hne
      fun name hname => (hnames name hname).ne_empty
  · intro names last hnames hnonempty hlast hget
    have hsegments : ∀ name ∈ names ++ [last], name ≠ "" := by
      intro name hname
      rcases List.mem_append.1 hname with hname | hname
      · exact (hnames name hname).ne_empty
      · exact List.mem_singleton.1 hname ▸ hnonempty
    obtain ⟨path, hparse, hpath, hlookup⟩ := parse_join_piece hnames hlast
      (lookupOf_concat_of_get?_eq_none names hget) (by simp) hsegments
    exact ⟨path, hparse, hpath, hlookup ▸ Registry.get?_exact registrations⟩

/-- A lookup for the number of words, to be registered. -/
def wordCount : Registration := ⟨"word_count", .scalars, Predicate.wordCount⟩

/-- The hypotheses are satisfiable.  The name `_size` is read back although it touches the
separator before it, and so is `size_` at the end of a key; four underscores in a row leave
an empty piece. -/
theorem parse_grammar_wordCount :
    ((∀ name ∈ ["books", "_size"], Segments.Spellable name) ∧
      Segments.isSplit "word_count" = false ∧
      (Registry.builtin.registerAll [wordCount]).get? "word_count" =
        some (.custom "word_count" .scalars Predicate.wordCount)) ∧
    (∃ path, parse (Registry.builtin.registerAll [wordCount]) "books___size__word_count" =
      .ok path ∧ path.segments = ["books", "_size"] ∧
        path.lookup = .custom "word_count" .scalars Predicate.wordCount) ∧
    (∃ path, parse (Registry.builtin.registerAll [wordCount]) "books__size_" = .ok path ∧
      path.segments = ["books", "size_"] ∧
        (Registry.builtin.registerAll [wordCount]).get? "exact" = some path.lookup) ∧
    ∃ e, parse (Registry.builtin.registerAll [wordCount]) "books____word_count" = .error e := by
  have hspellable : ∀ name ∈ ["books", "_size"],
      name ≠ "" ∧ Segments.isSplit name = false ∧ name.toList.getLast? ≠ some '_' := by
    decide +kernel
  have hnames : ∀ name ∈ ["books", "_size"], Segments.Spellable name := fun name hname =>
    ⟨(hspellable name hname).1, (hspellable name hname).2.1, (hspellable name hname).2.2⟩
  have hlast : Segments.isSplit "word_count" = false ∧ Segments.isSplit "size_" = false := by
    decide +kernel
  obtain ⟨-, herror, -, hlookup, hexact⟩ := parse_grammar [wordCount] "books____word_count"
  refine ⟨⟨hnames, hlast.1, rfl⟩,
    hlookup ["books", "_size"] "word_count" _ (List.cons_ne_nil _ _) hnames hlast.1 rfl,
    hexact ["books"] "size_" (fun name hname => hnames name ?_) (by decide) hlast.2 rfl,
    herror.2 (.inr (.inr ⟨["books"], ["word_count"], by decide +kernel, ?_⟩))⟩
  · exact List.mem_cons.2 (.inl (List.mem_singleton.1 hname))
  · exact fun h => absurd h (List.cons_ne_nil _ _)

/-- **A name that holds the separator can be registered but is never read as a lookup.**
The key `x__y` is this name and nothing else, and yet it is parsed: as a field `y` in a
field `x`. -/
theorem parse_split_name :
    (Registry.builtin.registerAll [⟨"x__y", .values, Predicate.always⟩]).contains "x__y" ∧
      ∃ path, parse (Registry.builtin.registerAll [⟨"x__y", .values, Predicate.always⟩]) "x__y" =
        .ok path ∧ path.segments = ["x", "y"] ∧ path.lookup = .builtin (.exact .sensitive) :=
  ⟨rfl, ⟨"x__y", "x", ["y"], .builtin (.exact .sensitive)⟩, rfl, rfl, rfl⟩

end KeyPath
end RecordQuery
