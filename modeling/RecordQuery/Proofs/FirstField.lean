/-
# A clause is settled by the nodes of its first field

A clause with several segments asks of a node what the rest of it asks of the nodes in its
first field (`Clause.holds_descend`).  It holds if the rest holds of one of them, and it
fails as the rest does on the first one that it fails on.  Only the key in a fault differs.
A position on what remains of the path is the next one on the whole path
(`KeyPath.followByPosition_succ`), so counting along the one settles the other.

The rest is a clause like any other.  It is what its own key, which is shorter, is read as
with the same operand (`Clause.parse_of_descend?`), so the pattern that was handed to it is
the one that it would have compiled itself.
-/

import RecordQuery.Proofs.FanOut
import RecordQuery.Proofs.Tails

namespace RecordQuery

section

variable [PatternEngine]

/-! ### Positions on a path and on its tail -/

namespace KeyPath

variable {path tail : KeyPath}

/-- Where there is no segment, none is found. -/
theorem followByPosition_of_getElem?_eq_none {depth : Nat} (h : path.segments[depth]? = none)
    (pattern : Option Pattern) (operand : Operand) (n : Node) :
    path.followByPosition pattern operand depth n = ExceptT.lift none := by
  rw [followByPosition]
  split
  · rfl
  · simp_all

/-- **A position on the tail of a path is the next one on the path.**  Following either from
there differs in the key of a fault alone. -/
theorem followByPosition_succ (h : path.tail? = some tail) (pattern : Option Pattern)
    (operand : Operand) (depth : Nat) (n : Node) :
    path.followByPosition pattern operand (depth + 1) n =
      (tail.followByPosition pattern operand depth n).adapt (.withKey path.key) := by
  obtain ⟨hsegments, hlookup⟩ := segments_eq_of_tail? h
  have hnext : path.segments.drop (depth + 1) = tail.segments.drop depth := by
    rw [hsegments, List.drop_succ_cons]
  cases hrest : tail.segments.drop depth with
  | nil =>
    have hnone : tail.segments[depth]? = none := by rw [← List.head?_drop, hrest, List.head?_nil]
    have hnone' : path.segments[depth + 1]? = none := by
      rw [hsegments, List.getElem?_cons_succ, hnone]
    rw [followByPosition_of_getElem?_eq_none hnone,
      followByPosition_of_getElem?_eq_none hnone']
    rfl
  | cons name rest =>
    rw [path.followByPosition_eq pattern operand (hnext.trans hrest),
      tail.followByPosition_eq pattern operand hrest]
    exact congrArg (fun r => ExceptT.mk (some r)) (follow_eq_mapError hlookup.symm ..)

end KeyPath

/-! ### What remains of a clause -/

namespace Clause

variable {registry : Registry} {key : String} {operand : Operand} {c c' : Clause}

/-- A clause goes on just if its path has several segments. -/
theorem isSome_descend?_iff : c.descend?.isSome ↔ 2 ≤ c.path.segments.length := by
  rw [descend?, Option.isSome_map, KeyPath.tail?_isSome_iff]

/-- An invalid path shows the key of the clause that found it. -/
theorem key_eq_of_holds_eq_error {n : Node} {cause : PathFault}
    (h : c.holds n = .error (.invalidPath key cause)) : key = c.path.key := by
  have hown : c.holds n = (c.holds n).mapError (.withKey c.path.key) :=
    KeyPath.follow_eq_mapError rfl ..
  rw [h] at hown
  exact (LookupError.invalidPath.inj (Except.error.inj hown)).1

/-- **What remains of a clause is what its own key is read as,** with the same operand. -/
theorem parse_of_descend? (h : parse registry key operand = .ok c)
    (hdescend : c.descend? = some c') : key = c.head ++ Segments.separator ++ c'.path.key ∧
      parse registry c'.path.key operand = .ok c' := by
  obtain ⟨hpath, hpattern, hoperand⟩ := parse_eq_ok_iff.1 h
  obtain ⟨tail, htail, rfl⟩ := Option.map_eq_some_iff.1 hdescend
  obtain ⟨hkey, hread⟩ := KeyPath.parse_of_tail? hpath htail
  obtain ⟨-, hlookup⟩ := KeyPath.tail?_eq_some htail
  rw [← hlookup] at hpattern
  exact ⟨hkey, parse_eq_ok_iff.2 ⟨hread, hpattern, hoperand⟩⟩

/-- A clause resolves its path with the pattern that the path would prepare. -/
theorem holds_eq_resolve (h : parse registry key operand = .ok c) (n : Node) :
    c.holds n = c.path.resolve operand n := by
  obtain ⟨-, hpattern, hoperand⟩ := parse_eq_ok_iff.1 h
  rw [KeyPath.resolve, hpattern, holds, hoperand]
  rfl

/-- Evaluating a clause is following its path from the first position. -/
theorem followByPosition_zero (c : Clause) (n : Node) :
    c.path.followByPosition c.pattern c.operand 0 n = ExceptT.mk (some (c.holds n)) := by
  have hall : c.path.segments.drop 0 = c.path.head :: c.path.rest := rfl
  exact c.path.followByPosition_eq c.pattern c.operand hall n

/-- **A clause with several segments is settled by the nodes of its first field.**  What
remains of the clause there is a clause of its own, and wherever the first field holds
nodes:

* The clause holds if the rest can be evaluated on all of these nodes and holds of one of
  them, and does not hold if it holds of none.
* It fails if the rest fails on some of the nodes, as it does on the first one, except that
  an invalid path shows the key of the clause in place of that of the rest.

The rest is evaluated on a path of its own, but counting on along the path of the clause
comes to the same: a position on the one is the next one on the other.

If the clause was read from a key, this key goes on, after the first segment and a
separator, with the key of the rest.  The rest is what its own key and the operand are read
as, and it finds out with the pattern that it was handed what it would with one compiled for
the path or for each value. -/
theorem holds_descend (hlong : 2 ≤ c.path.segments.length) : ∃ c', c.descend? = some c' ∧
    (∀ n field, n.get? c.head = some field → field.isRelated →
      (∀ b, c.holds n = .ok b ↔ (∀ child ∈ field.related, (c'.holds child).isOk) ∧
        b = field.related.any fun child => c'.holds child = .ok true) ∧
      ∀ e, c.holds n = .error e ↔
        ∃ e', FirstFault c'.holds field.related e' ∧ e = e'.withKey c.path.key) ∧
    (∀ child key cause, c'.holds child = .error (.invalidPath key cause) → key = c'.path.key) ∧
    (∀ n, c.path.followByPosition c.pattern c.operand 0 n = ExceptT.mk (some (c.holds n)) ∧
      c'.path.followByPosition c'.pattern c'.operand 0 n = ExceptT.mk (some (c'.holds n)) ∧
      ∀ depth, c.path.followByPosition c.pattern c.operand (depth + 1) n =
        (c'.path.followByPosition c'.pattern c'.operand depth n).adapt (.withKey c.path.key)) ∧
    ∀ registry key operand, parse registry key operand = .ok c →
      key = c.head ++ Segments.separator ++ c'.path.key ∧
      parse registry c'.path.key operand = .ok c' ∧
      (∀ child, c'.holds child = c'.path.resolve operand child) ∧
      ∀ v, c'.path.lookup.applyWith c'.pattern v operand = c'.path.lookup.apply v operand := by
  obtain ⟨c', hdescend⟩ := Option.isSome_iff_exists.1 (isSome_descend?_iff.2 hlong)
  refine ⟨c', hdescend, fun n field hget hr => ⟨fun b => ?_, fun e => ?_⟩,
    fun child key cause => key_eq_of_holds_eq_error, fun n =>
      ⟨c.followByPosition_zero n, c'.followByPosition_zero n, fun depth => ?_⟩,
    fun registry key operand hparse => ?_⟩
  · rw [holds_eq_ok_iff hdescend hget hr, KeyPath.anyMember_eq_ok_iff]
  · simp only [holds_eq_mapError hdescend hget hr, mapError_eq_error_iff,
      KeyPath.anyMember_eq_error_iff]
  · obtain ⟨tail, htail, rfl⟩ := Option.map_eq_some_iff.1 hdescend
    exact KeyPath.followByPosition_succ htail c.pattern c.operand depth n
  · obtain ⟨hkey, hread⟩ := parse_of_descend? hparse hdescend
    obtain ⟨-, hpattern, -⟩ := parse_eq_ok_iff.1 hread
    exact ⟨hkey, hread, holds_eq_resolve hread, Lookup.applyWith_eq_apply hpattern⟩

end Clause

end

namespace Clause

/-- The key `books__author__name__regex`. -/
def authorMatches : KeyPath :=
  ⟨"books__author__name__regex", "books", ["author", "name"], .builtin (.regex .sensitive)⟩

/-- What remains of it for a book. -/
def nameMatches : KeyPath :=
  ⟨"author__name__regex", "author", ["name"], .builtin (.regex .sensitive)⟩

/-- A book with what is said about its author. -/
def bookBy (author : Content) : Node := .ofContents [("author", author)]

/-- A record of books with what is said about their authors. -/
def booksBy (authors : List Content) : Node :=
  .ofContents [("books", .dataset (authors.map bookBy))]

/-- An author with a name. -/
def authorNamed (name : String) : Content :=
  .node (.ofContents [("name", .scalar (.string name))])

/-- The hypotheses are satisfiable by a clause with a pattern.  It holds of a record with a
book whose author has a matching name.  If another book has a name in place of its author,
what remains of the clause is at fault there, and so is the clause, each with its own key. -/
theorem holds_descend_authorMatches : ∃ c c' pattern,
    parse .builtin authorMatches.key (.scalar (.string "^a")) = .ok c ∧
    c.pattern = some pattern ∧ 2 ≤ c.path.segments.length ∧ c.descend? = some c' ∧
    parse .builtin "author__name__regex" (.scalar (.string "^a")) = .ok c' ∧
    c.holds (booksBy [authorNamed "ab"]) = .ok true ∧
    c'.holds (bookBy (.scalar (.string "ab"))) =
      .error (.invalidPath "author__name__regex" (.valueField "author" "name")) ∧
    c.holds (booksBy [authorNamed "ab", .scalar (.string "ab")]) =
      .error (.invalidPath "books__author__name__regex" (.valueField "author" "name")) := by
  have hprepare : (authorMatches.lookup.prepare (.scalar (.string "^a"))).isOk := by
    decide +kernel
  obtain ⟨prepared, hprepared⟩ := isOk_iff.1 hprepare
  obtain ⟨pattern, -, rfl⟩ : ∃ pattern, (Op.regex .sensitive).compilePattern
      (.scalar (.string "^a")) = .ok pattern ∧ some pattern = prepared := map_eq_ok_iff.1 hprepared
  have hread : parse .builtin authorMatches.key (.scalar (.string "^a")) =
      .ok ⟨authorMatches, .scalar (.string "^a"), some pattern⟩ :=
    parse_eq_ok_iff.2 ⟨by cbv, hprepared, rfl⟩
  have hlong : 2 ≤ authorMatches.segments.length := by decide
  obtain ⟨c', hdescend, hbooks, -, -, hparsed⟩ :=
    holds_descend (c := ⟨authorMatches, .scalar (.string "^a"), some pattern⟩) hlong
  obtain ⟨-, hrest, hresolve, -⟩ := hparsed _ _ _ hread
  obtain rfl : c' = ⟨nameMatches, .scalar (.string "^a"), some pattern⟩ := by
    have htail : authorMatches.tail? = some nameMatches := by cbv
    rw [descend?, htail] at hdescend
    exact (Option.some.inj hdescend).symm
  have hmatch : nameMatches.resolve (.scalar (.string "^a")) (bookBy (authorNamed "ab")) =
      .ok true := by decide +kernel
  have hfault : nameMatches.resolve (.scalar (.string "^a")) (bookBy (.scalar (.string "ab"))) =
      .error (.invalidPath "author__name__regex" (.valueField "author" "name")) := by
    decide +kernel
  rw [← hresolve] at hmatch hfault
  obtain ⟨hholds, -⟩ := hbooks (booksBy [authorNamed "ab"]) _ rfl rfl
  obtain ⟨-, hfails⟩ := hbooks (booksBy [authorNamed "ab", .scalar (.string "ab")]) _ rfl rfl
  refine ⟨_, _, pattern, hread, rfl, hlong, hdescend, hrest, (hholds true).2 ⟨?_, ?_⟩, hfault,
    (hfails _).2 ⟨_, ⟨[bookBy (authorNamed "ab")], _, [], rfl, ?_, hfault⟩, rfl⟩⟩
  · exact List.forall_mem_singleton.2 (hmatch ▸ rfl)
  · simp [Field.related, Content.related, hmatch]
  · exact List.forall_mem_singleton.2 (hmatch ▸ rfl)

end Clause
end RecordQuery
