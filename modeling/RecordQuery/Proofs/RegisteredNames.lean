/-
# What a registry lists

A registry that starts with the built-in lookups and has predicates registered in it lists
the built-in names and behind them the names that were added, each once and in the order in
which they were first registered (`Registry.names_registerAll`).  Registering either keeps
the list or puts one name at its end, and the entries stay in step with the list: a name is
listed exactly if it has a lookup, there is no second entry under it, and the lookup bears
the name that it stands under.

So every key that can be read has a lookup that stands in the registry
(`KeyPath.get?_lookup_of_parse`), the one of a key that names none included.
-/

import Mathlib.Data.List.Nodup
import RecordQuery.Proofs.LastRegistration

namespace RecordQuery
namespace Registry

variable {history : List Registration} {added : List String} {r : Registration}
  {registry : Registry}

/-! ### Names that were added -/

/-- The names that a history of registrations adds to the built-in ones, each once and in
the order of their first registrations. -/
structure Added (history : List Registration) (added : List String) : Prop where
  mem_iff : ∀ name, name ∈ added ↔ name ∈ history.map (·.name) ∧ name ∉ Op.all.map Op.name
  sorted : added.Pairwise fun name other =>
    (history.map (·.name)).idxOf name < (history.map (·.name)).idxOf other

/-- No name is added twice. -/
theorem Added.nodup (h : Added history added) : added.Nodup :=
  h.sorted.imp fun hlt heq => absurd (heq ▸ hlt) (Nat.lt_irrefl _)

/-- One more registration does not move the first one under a name that was added. -/
theorem Added.sorted_concat (h : Added history added) (r : Registration) :
    added.Pairwise fun name other => ((history ++ [r]).map (·.name)).idxOf name <
      ((history ++ [r]).map (·.name)).idxOf other := by
  refine h.sorted.imp_of_mem fun hname hother hlt => ?_
  rw [List.map_append, List.idxOf_append_of_mem ((h.mem_iff _).1 hname).1,
    List.idxOf_append_of_mem ((h.mem_iff _).1 hother).1]
  exact hlt

/-- A name that is listed is not added again. -/
theorem Added.concat_of_mem (h : Added history added)
    (hr : r.name ∈ Op.all.map Op.name ++ added) : Added (history ++ [r]) added := by
  refine ⟨fun name => ?_, h.sorted_concat r⟩
  rw [h.mem_iff, List.map_append, List.mem_append, List.map_singleton, List.mem_singleton]
  refine ⟨And.imp_left .inl, ?_⟩
  rintro ⟨hname | rfl, hnew⟩
  · exact ⟨hname, hnew⟩
  · rcases List.mem_append.1 hr with hr | hr
    · exact absurd hr hnew
    · exact (h.mem_iff _).1 hr

/-- A name that is not listed is added at the end. -/
theorem Added.concat_of_not_mem (h : Added history added)
    (hr : r.name ∉ Op.all.map Op.name ++ added) :
    Added (history ++ [r]) (added ++ [r.name]) := by
  have hnew : r.name ∉ Op.all.map Op.name := fun hmem => hr (List.mem_append_left _ hmem)
  have hunseen : r.name ∉ history.map (·.name) := fun hmem =>
    hr (List.mem_append_right _ ((h.mem_iff _).2 ⟨hmem, hnew⟩))
  refine ⟨fun name => ?_, List.pairwise_append.2 ⟨h.sorted_concat r, List.pairwise_singleton _ _,
    fun name hname other hother => ?_⟩⟩
  · rw [List.mem_append, h.mem_iff, List.map_append, List.mem_append, List.map_singleton,
      List.mem_singleton, or_and_right]
    exact or_congr_right ⟨fun heq => ⟨heq, heq ▸ hnew⟩, And.left⟩
  · obtain rfl := List.mem_singleton.1 hother
    have hbefore := ((h.mem_iff _).1 hname).1
    have hlt := List.idxOf_lt_length_iff.2 hbefore
    rw [List.map_append, List.idxOf_append_of_mem hbefore, List.idxOf_append_of_notMem hunseen]
    omega

/-! ### Names and entries -/

/-- A new name is put at the end, and one that is there stays where it is. -/
theorem names_register (registry : Registry) (name : String) (accepts : Accepts)
    (predicate : Value → Operand → Bool) :
    (registry.register name accepts predicate).names =
      if name ∈ registry.names then registry.names else registry.names ++ [name] :=
  Entries.names_put ..

/-- **A registry lists the built-in names and then those that were added.** -/
theorem names_registerAll (history : List Registration) : ∃ added, Added history added ∧
    (builtin.registerAll history).names = Op.all.map Op.name ++ added := by
  induction history using List.reverseRecOn with
  | nil => exact ⟨[], ⟨by simp, .nil⟩, rfl⟩
  | append_singleton history r ih =>
    obtain ⟨added, hadded, hnames⟩ := ih
    rw [registerAll_concat, names_register, hnames]
    by_cases hr : r.name ∈ Op.all.map Op.name ++ added
    · exact ⟨added, hadded.concat_of_mem hr, if_pos hr⟩
    · exact ⟨added ++ [r.name], hadded.concat_of_not_mem hr, by rw [if_neg hr, List.append_assoc]⟩

example : Op.all.map Op.name = ["exact", "iexact", "contains", "icontains", "startswith",
    "istartswith", "endswith", "iendswith", "in", "gt", "gte", "lt", "lte", "range", "isnull",
    "regex", "iregex", "contained_by", "overlap", "len"] := rfl

/-- No name is listed twice. -/
theorem nodup_names_registerAll (history : List Registration) :
    (builtin.registerAll history).names.Nodup := by
  induction history using List.reverseRecOn with
  | nil => decide
  | append_singleton history r ih =>
    rw [registerAll_concat]
    exact Entries.nodup_names_put ih _ _

/-- Every entry is the one that is found under its name. -/
theorem mem_entries_iff (history : List Registration) {name : String} {lookup : Lookup} :
    (name, lookup) ∈ (builtin.registerAll history).entries ↔
      (builtin.registerAll history).get? name = some lookup :=
  ⟨Entries.get?_of_mem (nodup_names_registerAll history), Entries.mem_of_get?⟩

/-- A name is contained exactly if it is listed. -/
theorem contains_iff_mem_names {name : String} : registry.contains name ↔ name ∈ registry.names :=
  Entries.isSome_get?_iff name registry.entries

/-- **The lookup of a key stands in the registry,** if there is one for keys that name
none. -/
theorem get?_lookup_of_parse {key : String} {path : KeyPath} (hnamed : registry.Named)
    (hexact : registry.get? (Op.exact .sensitive).name = some registry.default)
    (h : KeyPath.parse registry key = .ok path) :
    registry.get? path.lookup.name = some path.lookup := by
  rw [KeyPath.lookup_of_parse h]
  cases hlast : registry.get? (KeyPath.lastPiece key) with
  | some lookup => rw [Option.getD_some, hnamed _ _ hlast, hlast]
  | none => rw [Option.getD_none, hnamed _ _ hexact, hexact]

/-- **Names, entries and lookups stay in step.**  After any registrations:

* The names are the built-in ones in their order and then those that were added, in the
  order of their first registrations; each name is listed once.
* A name is contained exactly if it is listed, and exactly then it has a lookup.
* The entries are the lookups that are found under their names, and each bears the name that
  it stands under.
* Under a name stands the lookup that was registered last under it, and the built-in one if
  there was none.
* The lookup of keys that name none stands under `exact`, and every key that can be read has
  a lookup that stands in the registry. -/
theorem registerAll_inStep (history : List Registration) :
    ((∃ added, Added history added ∧
        (builtin.registerAll history).names = Op.all.map Op.name ++ added) ∧
      (builtin.registerAll history).names.Nodup) ∧
    (∀ name, ((builtin.registerAll history).contains name ↔
        name ∈ (builtin.registerAll history).names) ∧
      (((builtin.registerAll history).get? name).isSome ↔
        name ∈ (builtin.registerAll history).names)) ∧
    (∀ name lookup, ((name, lookup) ∈ (builtin.registerAll history).entries ↔
        (builtin.registerAll history).get? name = some lookup) ∧
      ((builtin.registerAll history).get? name = some lookup → lookup.name = name)) ∧
    (∀ name, (builtin.registerAll history).get? name = lastRegistered history name) ∧
    (builtin.registerAll history).get? "exact" = some (builtin.registerAll history).default ∧
    ∀ key path, KeyPath.parse (builtin.registerAll history) key = .ok path →
      (builtin.registerAll history).get? path.lookup.name = some path.lookup := by
  have hnamed : (builtin.registerAll history).Named := named_builtin.registerAll history
  refine ⟨⟨names_registerAll history, nodup_names_registerAll history⟩,
    fun name => ⟨contains_iff_mem_names, contains_iff_mem_names⟩,
    fun name lookup => ⟨mem_entries_iff history, hnamed name lookup⟩,
    get?_registerAll history, get?_exact history, fun key path => ?_⟩
  exact get?_lookup_of_parse hnamed (get?_exact history)

/-- Words are counted, equality is replaced, and then words are counted otherwise. -/
def recounted : List Registration :=
  [KeyPath.wordCount, KeyPath.anything, ⟨"word_count", .values, Predicate.never⟩]

/-- The hypotheses are satisfiable.  One name is added and stays where it is when its lookup
is replaced, and a key that names no lookup gets the one that was put in the place of
equality. -/
theorem registerAll_inStep_recounted :
    (builtin.registerAll recounted).names = Op.all.map Op.name ++ ["word_count"] ∧
    (∃ lookup, (builtin.registerAll recounted).get? "word_count" = some lookup ∧
      lookup.accepts = .values ∧ lookup.name = "word_count") ∧
    ∃ path, KeyPath.parse (builtin.registerAll recounted) "title" = .ok path ∧
      path.lookup = KeyPath.anything.lookup ∧
      (builtin.registerAll recounted).get? path.lookup.name = some path.lookup := by
  obtain ⟨-, -, hentries, hlast, -, hkeys⟩ := registerAll_inStep recounted
  obtain ⟨-, hname⟩ := hentries "word_count" (.custom "word_count" .values Predicate.never)
  have hget := (hlast "word_count").trans rfl
  exact ⟨rfl, ⟨_, hget, rfl, hname hget⟩, _, rfl, rfl, hkeys "title" _ rfl⟩

end Registry
end RecordQuery
