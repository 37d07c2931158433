/-
# How names are spelled in a key

A key is cut at every separator, from the left.  A name can therefore be read back
from a key in which something follows it only if it does not hold the separator, and
does not end in the character that the separator begins with; and no segment may be
empty (`Segments.Spellable`).  Names that are spellable can stand in front of every
key: they become segments in front of those of the key (`Segments.split_join`,
`KeyPath.parse_join`).  No other names are ever read (`Segments.spellable_of_split`).
-/

import Mathlib.Data.List.Infix
import RecordQuery.Proofs.FirstFault

namespace RecordQuery
namespace Segments

/-- A name that can be read back from a key in which something follows it. -/
structure Spellable (name : String) : Prop where
  ne_empty : name ≠ ""
  unsplit : isSplit name = false
  getLast?_ne : name.toList.getLast? ≠ some '_'

/-- The separator is two underscores. -/
theorem separator_toList : separator.toList = ['_', '_'] := rfl

/-- A name holds no separator just if there are no two underscores in a row. -/
theorem isSplit_eq_false_iff {name : String} :
    isSplit name = false ↔ ¬['_', '_'] <:+: name.toList := by
  rw [← Bool.not_eq_true, isSplit, Text.occursIn_iff, separator_toList]
  simp only [List.IsInfix, eq_comm]

/-! ### Cutting -/

/-- A character that does not begin a separator belongs to the first piece. -/
theorem cut_cons {c : Char} {cs : List Char} (h : ¬['_', '_'] <+: c :: cs) :
    cut (c :: cs) = ((cut cs).head?.getD []).cons c :: (cut cs).tail := by
  have hnot : ∀ rest, c = '_' → cs = '_' :: rest → False := by
    rintro rest rfl rfl
    exact h ⟨rest, rfl⟩
  obtain ⟨piece, pieces, hcut⟩ := List.exists_cons_of_ne_nil (cut_ne_nil cs)
  rw [cut.eq_3 c cs hnot, hcut]
  rfl

/-- A text without a separator is one piece. -/
theorem cut_of_not_infix {cs : List Char} (h : ¬['_', '_'] <:+: cs) : cut cs = [cs] := by
  induction cs with
  | nil => rfl
  | cons c cs ih =>
    have hcs : cut cs = [cs] := ih fun hinside => h (hinside.trans (List.suffix_cons c cs).isInfix)
    rw [cut_cons fun hprefix => h hprefix.isInfix, hcs]
    rfl

/-- A text without separators is one segment. -/
theorem split_eq_singleton {name : String} (h : isSplit name = false) : split name = [name] := by
  rw [split, cut_of_not_infix (isSplit_eq_false_iff.1 h), List.map_singleton, String.ofList_toList]

/-- **A text that does not end in the character that separators begin with is cut apart from
what follows the separator after it.** -/
theorem cut_append_separator {cs : List Char} (h : cs.getLast? ≠ some '_') (ds : List Char) :
    cut (cs ++ '_' :: '_' :: ds) = cut cs ++ cut ds := by
  fun_induction cut cs with
  | case1 => rfl
  | case2 cs ih =>
    have hcs : cs.getLast? ≠ some '_' := by
      intro hlast
      rw [List.getLast?_cons_cons, List.getLast?_cons, hlast] at h
      exact h rfl
    rw [List.cons_append, List.cons_append, cut, ih hcs]
    rfl
  | case3 c cs _ hcut => exact absurd hcut (cut_ne_nil cs)
  | case4 c cs hnot piece pieces hcut ih =>
    have hcs : cs.getLast? ≠ some '_' := by
      intro hlast
      rw [List.getLast?_cons, hlast] at h
      exact h rfl
    have hnot' : ∀ rest, c = '_' → cs ++ '_' :: '_' :: ds = '_' :: rest → False := by
      rintro rest rfl hstart
      cases cs with
      | nil => exact h rfl
      | cons d cs =>
        obtain ⟨rfl, -⟩ := List.cons.inj hstart
        exact hnot cs rfl rfl
    rw [List.cons_append, cut.eq_3 c _ hnot', ih hcs, hcut]
    rfl

/-- Such a text keeps its segments in front of others. -/
theorem split_append_separator {text : String} (h : text.toList.getLast? ≠ some '_')
    (other : String) : split (text ++ separator ++ other) = split text ++ split other := by
  have hcut := cut_append_separator h other.toList
  rw [split, split, split, String.toList_append, String.toList_append, separator_toList,
    List.append_assoc, ← List.map_append, ← hcut]
  rfl

/-- **A name that is spellable in front of a key is its first segment.** -/
theorem split_append {name : String} (h : Spellable name) (text : String) :
    split (name ++ separator ++ text) = name :: split text := by
  rw [split_append_separator h.getLast?_ne, split_eq_singleton h.unsplit, List.singleton_append]

/-- The first of several names is followed by the separator. -/
theorem join_cons_cons (name next : String) (names : List String) :
    join (name :: next :: names) = name ++ separator ++ join (next :: names) :=
  String.intercalate_cons_cons ..

/-- So is a name in front of others and a key. -/
theorem join_append_singleton_cons (name : String) (names : List String) (key : String) :
    join (name :: names ++ [key]) = name ++ separator ++ join (names ++ [key]) := by
  cases names <;> exact join_cons_cons ..

/-- One name is written as it is. -/
theorem join_singleton (name : String) : join [name] = name := String.intercalate_singleton ..

/-- The last of several names follows the separator. -/
theorem join_append_singleton {names : List String} (h : names ≠ []) (last : String) :
    join (names ++ [last]) = join names ++ separator ++ last := by
  induction names with
  | nil => exact absurd rfl h
  | cons name names ih =>
    rw [join_append_singleton_cons]
    cases names with
    | nil => rw [List.nil_append, join_singleton, join_singleton]
    | cons next names =>
      rw [ih (List.cons_ne_nil _ _), join_cons_cons, String.append_assoc, String.append_assoc,
        String.append_assoc, String.append_assoc, String.append_assoc]

/-- The separator has two characters. -/
theorem length_separator : separator.length = 2 := rfl

/-- **Names that are spellable in front of a key are its first segments.** -/
theorem split_join {names : List String} (h : ∀ name ∈ names, Spellable name) (key : String) :
    split (join (names ++ [key])) = names ++ split key := by
  induction names with
  | nil => exact congrArg split (join_singleton key)
  | cons name names ih =>
    obtain ⟨hname, hnames⟩ := List.forall_mem_cons.1 h
    rw [join_append_singleton_cons, split_append hname, ih hnames, List.cons_append]

/-- A first piece that is empty is followed by the separator at once. -/
theorem exists_of_cut_eq_nil_cons {cs next : List Char} {pieces : List (List Char)}
    (h : cut cs = [] :: next :: pieces) : ∃ rest, cs = '_' :: '_' :: rest := by
  fun_cases cut cs with
  | case1 => simp [cut] at h
  | case2 rest => exact ⟨rest, rfl⟩
  | case3 c cs hnot hcut => exact absurd hcut (cut_ne_nil cs)
  | case4 c cs hnot piece pieces hcut =>
    rw [cut.eq_3 c cs hnot, hcut] at h
    exact absurd (List.cons.inj h).1 (List.cons_ne_nil _ _)

/-- **A piece that another follows does not end in the character that separators begin
with,** since the separator after it would have begun there. -/
theorem getLast?_ne_of_mem_dropLast_cut {cs piece : List Char} (h : piece ∈ (cut cs).dropLast) :
    piece.getLast? ≠ some '_' := by
  fun_induction cut cs generalizing piece with
  | case1 => simp at h
  | case2 cs ih =>
    rw [List.dropLast_cons_of_ne_nil (cut_ne_nil cs)] at h
    rcases List.mem_cons.1 h with rfl | h
    · simp
    · exact ih h
  | case3 c cs hnot hcut => simp at h
  | case4 c cs hnot first pieces hcut ih =>
    obtain _ | ⟨next, pieces⟩ := pieces
    · simp at h
    · rw [hcut] at ih
      rcases List.mem_cons.1 h with rfl | h
      · cases first with
        | nil =>
          obtain ⟨rest, rfl⟩ := exists_of_cut_eq_nil_cons hcut
          intro hc
          exact hnot _ (Option.some.inj hc) rfl
        | cons d first =>
          rw [List.getLast?_cons_cons]
          exact ih List.mem_cons_self
      · exact ih (List.mem_cons_of_mem _ h)

/-- So does no segment but the last one. -/
theorem getLast?_ne_of_mem_dropLast_split {text name : String}
    (h : name ∈ (split text).dropLast) : name.toList.getLast? ≠ some '_' := by
  rw [split, ← List.map_dropLast] at h
  obtain ⟨piece, hpiece, rfl⟩ := List.mem_map.1 h
  rw [String.toList_ofList]
  exact getLast?_ne_of_mem_dropLast_cut hpiece

end Segments

namespace KeyPath

variable {registry : Registry} {key : String} {path : KeyPath}

/-- **What a key is parsed as:** its segments, none of them empty, without the last one
if that names a lookup. -/
theorem parse_eq_ok_iff : parse registry key = .ok path ↔
    path.key = key ∧ lookupOf registry (Segments.split key) = (path.segments, path.lookup) ∧
      ∀ name ∈ path.segments, name ≠ "" := by
  obtain ⟨written, head, rest, lookup⟩ := path
  rw [segments, parse]
  split
  · rename_i hempty
    refine iff_of_false (by simp) ?_
    rintro ⟨-, hlookup, hsegments⟩
    -- The empty key has one segment, which is empty unless it names a lookup.
    have hone : Segments.split key = [""] := by rw [hempty]; rfl
    rw [hone, lookupOf] at hlookup
    split at hlookup
    · simp at hlookup
    · obtain ⟨rfl, -⟩ := List.cons.inj (Prod.mk.inj hlookup).1
      exact hsegments "" List.mem_cons_self rfl
  · obtain ⟨names, found⟩ := lookupOf registry (Segments.split key)
    cases names with
    | nil => simp
    | cons first names =>
      simp only [List.any_eq_true, decide_eq_true_eq, Prod.mk.injEq, List.cons.injEq]
      split
      · rename_i hsome
        obtain ⟨name, hname, rfl⟩ := hsome
        refine iff_of_false (by simp) ?_
        rintro ⟨-, ⟨⟨rfl, rfl⟩, -⟩, hsegments⟩
        exact hsegments "" hname rfl
      · rename_i hnone
        simp only [Except.ok.injEq, mk.injEq]
        constructor
        · rintro ⟨rfl, rfl, rfl, rfl⟩
          exact ⟨rfl, ⟨⟨rfl, rfl⟩, rfl⟩, fun name hname he => hnone ⟨name, hname, he⟩⟩
        · rintro ⟨rfl, ⟨⟨rfl, rfl⟩, rfl⟩, -⟩
          exact ⟨rfl, rfl, rfl, rfl⟩

/-- Names in front of a key do not change what its last segment names. -/
theorem lookupOf_append (names : List String) {pieces : List String} (h : pieces ≠ []) :
    lookupOf registry (names ++ pieces) =
      (names ++ (lookupOf registry pieces).1, (lookupOf registry pieces).2) := by
  have hlast : (names ++ pieces).getLast? = pieces.getLast? := List.getLast?_append_of_ne_nil _ h
  rw [lookupOf, lookupOf, hlast, List.dropLast_append_of_ne_nil h]
  cases pieces.getLast?.bind registry.get? <;> rfl

/-- A path with names in front. -/
def prepend : List String → KeyPath → KeyPath
  | [], path => path
  | name :: names, path =>
    ⟨Segments.join (name :: names ++ [path.key]), name, names ++ path.segments, path.lookup⟩

/-- The names in front are segments. -/
theorem segments_prepend (names : List String) (path : KeyPath) :
    (path.prepend names).segments = names ++ path.segments := by
  cases names <;> rfl

/-- They are written in front of the key. -/
theorem key_prepend (names : List String) (path : KeyPath) :
    (path.prepend names).key = Segments.join (names ++ [path.key]) := by
  cases names with
  | nil => exact (Segments.join_singleton path.key).symm
  | cons name names => rfl

/-- The lookup stays. -/
theorem lookup_prepend (names : List String) (path : KeyPath) :
    (path.prepend names).lookup = path.lookup := by
  cases names <;> rfl

/-- **Spellable names can stand in front of every key,** and are its first segments
then. -/
theorem parse_join {names : List String} (hnames : ∀ name ∈ names, Segments.Spellable name)
    (h : parse registry key = .ok path) :
    parse registry (Segments.join (names ++ [key])) = .ok (path.prepend names) := by
  obtain ⟨rfl, hlookup, hsegments⟩ := parse_eq_ok_iff.1 h
  refine parse_eq_ok_iff.2 ⟨key_prepend names path, ?_, ?_⟩
  · rw [Segments.split_join hnames, lookupOf_append names (Segments.split_ne_nil _), hlookup,
      segments_prepend, lookup_prepend]
  · rw [segments_prepend]
    intro name hname
    rcases List.mem_append.1 hname with hname | hname
    · exact (hnames name hname).ne_empty
    · exact hsegments name hname

end KeyPath
end RecordQuery
