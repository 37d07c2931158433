/-
# What registrations do to a key

A registry is the built-in one with predicates registered in some order, and a key asks it
for one name: the last of its pieces.  So the whole history of registrations counts for no
more than the last registration under that name (`Registry.get?_registerAll`).  If the name
has no lookup, the key is a path to the end and the lookup for equality is applied; that one
may have been replaced too, and then its last registration counts.

A name that holds the separator is never a piece of a key (`Segments.isSplit_of_mem_split`)
and never the name of the lookup for equality.  It can be registered anywhere in the history
and no key will tell.
-/

import RecordQuery.Proofs.Addressing
import RecordQuery.Proofs.KeyGrammar

namespace RecordQuery

/-- The lookup that a registration puts under its name. -/
def Registration.lookup (r : Registration) : Lookup := .custom r.name r.accepts r.predicate

namespace Registry

/-- The lookup under a name after some registrations: that of the last one under the name,
and the built-in one if there was none. -/
def lastRegistered (registrations : List Registration) (name : String) : Option Lookup :=
  match (registrations.filter (·.name = name)).getLast? with
  | some r => some r.lookup
  | none => (Op.ofName? name).map .builtin

variable {registrations before after : List Registration} {r : Registration} {name : String}

/-- To begin with, a name has a lookup if an operator has this name. -/
theorem builtin_get?_eq (name : String) :
    builtin.get? name = (Op.ofName? name).map .builtin := by
  cases hop : Op.ofName? name with
  | some op =>
    have hname := List.find?_some hop
    obtain rfl : op.name = name := beq_iff_eq.1 hname
    exact builtin_get?_name op
  | none =>
    rw [Option.map_none, ← Option.not_isSome_iff_eq_none]
    intro hsome
    obtain ⟨lookup, hget⟩ := Option.isSome_iff_exists.1 hsome
    obtain ⟨op, -, hop'⟩ := List.mem_map.1 (Entries.mem_of_get? hget)
    obtain ⟨rfl, -⟩ := Prod.mk.inj hop'
    have hfound := List.find?_eq_none.1 hop op op.mem_all
    exact hfound (beq_iff_eq.2 rfl)

/-- The last registration is made in the registry after the ones before it. -/
theorem registerAll_concat (registry : Registry) (registrations : List Registration)
    (r : Registration) : registry.registerAll (registrations ++ [r]) =
      (registry.registerAll registrations).register r.name r.accepts r.predicate := by
  rw [registerAll, List.foldl_append]
  rfl

/-- One more registration changes what was registered last under its own name. -/
theorem lastRegistered_concat : lastRegistered (registrations ++ [r]) name =
    if name = r.name then some r.lookup else lastRegistered registrations name := by
  rw [lastRegistered, lastRegistered, List.filter_append]
  by_cases hname : name = r.name
  · rw [if_pos hname, List.filter_singleton, decide_eq_true hname.symm, cond_true,
      List.getLast?_concat]
  · rw [if_neg hname, List.filter_singleton, decide_eq_false (Ne.symm hname), cond_false,
      List.append_nil]

/-- **Of a history of registrations a name shows the last one under it.** -/
theorem get?_registerAll (registrations : List Registration) (name : String) :
    (builtin.registerAll registrations).get? name = lastRegistered registrations name := by
  induction registrations using List.reverseRecOn with
  | nil => exact builtin_get?_eq name
  | append_singleton registrations r ih =>
    rw [registerAll_concat, get?_register, lastRegistered_concat, ih]
    rfl

/-- A registration under another name, wherever it stands, does not count. -/
theorem lastRegistered_insert (h : r.name ≠ name) :
    lastRegistered (before ++ r :: after) name = lastRegistered (before ++ after) name := by
  rw [lastRegistered, lastRegistered, List.filter_append, List.filter_append,
    List.filter_cons_of_neg (by simpa using h)]

end Registry

namespace KeyPath

variable {registry other : Registry} {key : String} {path : KeyPath}

/-- The last piece of a key, which names its lookup if it is registered. -/
def lastPiece (key : String) : String := (Segments.split key).getLast (Segments.split_ne_nil key)

/-- The last piece holds no separator. -/
theorem isSplit_lastPiece (key : String) : Segments.isSplit (lastPiece key) = false :=
  Segments.isSplit_of_mem_split (List.getLast_mem _)

/-- **Of the registry a key reads** what is under its last piece, and the default if there is
nothing. -/
theorem lookupOf_split_eq (registry : Registry) (key : String) :
    lookupOf registry (Segments.split key) =
      ((registry.get? (lastPiece key)).elim (Segments.split key) fun _ =>
        (Segments.split key).dropLast,
      (registry.get? (lastPiece key)).getD registry.default) := by
  rw [lookupOf, List.getLast?_eq_some_getLast (Segments.split_ne_nil key), Option.bind_some,
    ← lastPiece]
  cases registry.get? (lastPiece key) <;> rfl

/-- **A key asks a registry for one name,** and if that is not registered for the lookup of
keys that name none. -/
theorem parse_congr (hlast : registry.get? (lastPiece key) = other.get? (lastPiece key))
    (hdefault : (registry.get? (lastPiece key)).isSome ∨ registry.default = other.default) :
    parse registry key = parse other key := by
  have hread : lookupOf registry (Segments.split key) = lookupOf other (Segments.split key) := by
    rw [lookupOf_split_eq, lookupOf_split_eq, ← hlast]
    rcases hdefault with hsome | hdefault
    · obtain ⟨lookup, hget⟩ := Option.isSome_iff_exists.1 hsome
      rw [hget]
      rfl
    · rw [hdefault]
  rw [parse, parse, hread]

/-- The segments of a key and its error do not depend on the lookup of keys that name
none. -/
theorem map_segments_parse_congr
    (hlast : registry.get? (lastPiece key) = other.get? (lastPiece key)) :
    (parse registry key).map segments = (parse other key).map segments := by
  rw [parse, parse, lookupOf_split_eq, lookupOf_split_eq, ← hlast]
  split
  · rfl
  · dsimp only
    cases (registry.get? (lastPiece key)).elim (Segments.split key) fun _ =>
        (Segments.split key).dropLast with
    | nil => rfl
    | cons head rest =>
      dsimp only
      split <;> rfl

/-- The lookup of a key is that of its last piece, or that of keys that name none. -/
theorem lookup_of_parse (h : parse registry key = .ok path) :
    path.lookup = (registry.get? (lastPiece key)).getD registry.default := by
  obtain ⟨-, hread, -⟩ := parse_eq_ok_iff.1 h
  rw [lookupOf_split_eq] at hread
  exact (Prod.mk.inj hread).2.symm

/-- **Registering changes only the keys that end in the registered name.**  Let predicates
be registered, in any order and under any names.

* What a key is parsed as, or its error, is settled by the last registration under its last
  piece, together with the last one under `exact` if that piece has no lookup.
* Its segments, or its error, are settled by the first of these alone.
* Its lookup is the one registered last under its last piece, or if there is none the one
  registered last under `exact`.
* A registration under any other name changes no key, wherever it stands among the others.
* A registration under a name that holds the separator changes no key at all. -/
theorem parse_registered_last (key : String) :
    (∀ history history',
      Registry.lastRegistered history (lastPiece key) =
        Registry.lastRegistered history' (lastPiece key) →
      ((Registry.lastRegistered history (lastPiece key)).isSome ∨
        Registry.lastRegistered history "exact" = Registry.lastRegistered history' "exact") →
      parse (Registry.builtin.registerAll history) key =
        parse (Registry.builtin.registerAll history') key) ∧
    (∀ history history',
      Registry.lastRegistered history (lastPiece key) =
        Registry.lastRegistered history' (lastPiece key) →
      (parse (Registry.builtin.registerAll history) key).map segments =
        (parse (Registry.builtin.registerAll history') key).map segments) ∧
    (∀ history path, parse (Registry.builtin.registerAll history) key = .ok path →
      some path.lookup = (Registry.lastRegistered history (lastPiece key)).or
        (Registry.lastRegistered history "exact")) ∧
    (∀ before r after, r.name ≠ lastPiece key →
      ((Registry.lastRegistered (before ++ after) (lastPiece key)).isSome ∨ r.name ≠ "exact") →
      parse (Registry.builtin.registerAll (before ++ r :: after)) key =
        parse (Registry.builtin.registerAll (before ++ after)) key) ∧
    ∀ before r after, Segments.isSplit r.name →
      parse (Registry.builtin.registerAll (before ++ r :: after)) key =
        parse (Registry.builtin.registerAll (before ++ after)) key := by
  have hdefault : ∀ history, Registry.lastRegistered history "exact" =
      some (Registry.builtin.registerAll history).default := fun history => by
    rw [← Registry.get?_registerAll]
    exact Registry.get?_exact history
  have htwo : ∀ history history',
      Registry.lastRegistered history (lastPiece key) =
        Registry.lastRegistered history' (lastPiece key) →
      ((Registry.lastRegistered history (lastPiece key)).isSome ∨
        Registry.lastRegistered history "exact" = Registry.lastRegistered history' "exact") →
      parse (Registry.builtin.registerAll history) key =
        parse (Registry.builtin.registerAll history') key := by
    intro history history' hlast hexact
    rw [hdefault, hdefault, Option.some.injEq] at hexact
    simp only [← Registry.get?_registerAll] at hlast hexact
    exact parse_congr hlast hexact
  refine ⟨htwo, fun history history' hlast => ?_, fun history path hparse => ?_,
    fun before r after hname hexact => ?_, fun before r after hsplit => ?_⟩
  · simp only [← Registry.get?_registerAll] at hlast
    exact map_segments_parse_congr hlast
  · rw [hdefault, lookup_of_parse hparse, Registry.get?_registerAll]
    cases Registry.lastRegistered history (lastPiece key) <;> rfl
  · refine htwo _ _ (Registry.lastRegistered_insert hname) ?_
    rw [Registry.lastRegistered_insert hname]
    exact hexact.imp_right Registry.lastRegistered_insert
  · -- Neither a piece of a key nor `exact` holds the separator.
    have hpiece : r.name ≠ lastPiece key := fun h => by
      rw [h, isSplit_lastPiece] at hsplit
      exact Bool.false_ne_true hsplit
    have hexact : r.name ≠ "exact" := fun h => by
      rw [h] at hsplit
      exact absurd hsplit (by decide +kernel)
    exact htwo _ _ (Registry.lastRegistered_insert hpiece)
      (.inr (Registry.lastRegistered_insert hexact))

/-- A predicate in the place of the lookup for equality. -/
def anything : Registration := ⟨"exact", .values, Predicate.always⟩

/-- The hypotheses are satisfiable.  For a key that counts words it makes no difference that
words were counted otherwise before, nor that equality was replaced after; for a key that
names no lookup the latter does, and only in the lookup. -/
theorem parse_registered_last_wordCount :
    (Registry.lastRegistered [⟨"word_count", .values, Predicate.never⟩, wordCount]
        (lastPiece "title__word_count") =
      Registry.lastRegistered [wordCount, anything] (lastPiece "title__word_count") ∧
      parse (Registry.builtin.registerAll
          [⟨"word_count", .values, Predicate.never⟩, wordCount]) "title__word_count" =
        parse (Registry.builtin.registerAll [wordCount, anything]) "title__word_count") ∧
    (parse (Registry.builtin.registerAll [wordCount, anything]) "title").map segments =
      (parse (Registry.builtin.registerAll [wordCount]) "title").map segments ∧
    (∃ path, parse (Registry.builtin.registerAll [wordCount, anything]) "title" = .ok path ∧
      path.lookup = anything.lookup) ∧
    (wordCount.name ≠ lastPiece "title" ∧
      parse (Registry.builtin.registerAll [wordCount, anything]) "title" =
        parse (Registry.builtin.registerAll [anything]) "title") ∧
    Segments.isSplit "x__y" ∧
      parse (Registry.builtin.registerAll [wordCount, ⟨"x__y", .values, Predicate.always⟩]) "x__y" =
        parse (Registry.builtin.registerAll [wordCount]) "x__y" := by
  have hcount : lastPiece "title__word_count" = "word_count" := by decide +kernel
  have htitle : lastPiece "title" = "title" := by decide +kernel
  have hsame : Registry.lastRegistered [⟨"word_count", .values, Predicate.never⟩, wordCount]
        (lastPiece "title__word_count") =
      Registry.lastRegistered [wordCount, anything] (lastPiece "title__word_count") := by
    rw [hcount]
    rfl
  have hsome : (Registry.lastRegistered [⟨"word_count", .values, Predicate.never⟩, wordCount]
      (lastPiece "title__word_count")).isSome := by
    rw [hcount]
    rfl
  have hnone : ∀ history ∈ [[wordCount, anything], [wordCount]],
      Registry.lastRegistered history (lastPiece "title") = none := by
    rw [htitle]
    intro history hhistory
    simp only [List.mem_cons, List.not_mem_nil, or_false] at hhistory
    rcases hhistory with rfl | rfl <;> rfl
  have hother : wordCount.name ≠ lastPiece "title" := by
    rw [htitle]
    decide
  have hsplit : Segments.isSplit "x__y" := by decide +kernel
  obtain ⟨htwo, -⟩ := parse_registered_last "title__word_count"
  obtain ⟨-, hsegments, hlookup, hinsert, -⟩ := parse_registered_last "title"
  obtain ⟨-, -, -, -, hunseen⟩ := parse_registered_last "x__y"
  refine ⟨⟨hsame, htwo _ _ hsame (.inl hsome)⟩, hsegments _ _ ?_, ?_,
    ⟨hother, hinsert [] wordCount [anything] hother (.inr (by decide))⟩, hsplit,
    hunseen [wordCount] _ [] hsplit⟩
  · rw [hnone [wordCount, anything] (by simp), hnone [wordCount] (by simp)]
  · obtain ⟨path, hparse⟩ : ∃ path,
        parse (Registry.builtin.registerAll [wordCount, anything]) "title" = .ok path := ⟨_, rfl⟩
    have hlast := hlookup _ path hparse
    rw [hnone [wordCount, anything] (by simp), Option.none_or] at hlast
    exact ⟨path, hparse, Option.some.inj hlast⟩

end KeyPath
end RecordQuery
