/-
# Filtering by a range and by its two bounds

A key that is followed by `range` makes one clause, and followed by `gte` and by `lte` it
makes two, all along the same names (`Query.compile_between_within`).  What these clauses
say of one node is known, and so are the nodes that they narrow alike.  So the two queries
fail together, the range gives no more than its bounds, and they give the same where the
key leads to one place from every node (`Dataset.filter_between_agrees_within`).  Beyond
that they differ (`Dataset.filter_between_differs_from_within`).
-/

import RecordQuery.Proofs.Addressing
import RecordQuery.Proofs.Conjunction
import RecordQuery.Proofs.KeyGrammar
import RecordQuery.Proofs.RangeBounds

namespace RecordQuery

/-! ### The keys of the two queries -/

/-- A key followed by the name of a built-in lookup. -/
def KeyPath.withOp (key : String) (op : Op) : String := key ++ Segments.separator ++ op.name

/-- The query for what lies in a range. -/
def Query.between (key : String) (low high : Scalar) : Query :=
  ⟨[(KeyPath.withOp key .range, .list [low, high])]⟩

/-- The query for what lies within two bounds. -/
def Query.within (key : String) (low high : Scalar) : Query :=
  ⟨[(KeyPath.withOp key (.order .atLeast), .scalar low),
    (KeyPath.withOp key (.order .atMost), .scalar high)]⟩

section

variable [PatternEngine]

section Keys

variable {registry : Registry} {key : String} {op : Op}

/-- A key that is followed by a lookup is a clause along its pieces, if none of them is
empty. -/
theorem Clause.parse_withOp (hkey : key.toList.getLast? ≠ some '_')
    (hop : registry.get? op.name = some (.builtin op)) (operand : Operand)
    (hprepare : op.prepare operand = .ok none) :
    ("" ∉ Segments.split key ∧ ∃ c, parse registry (KeyPath.withOp key op) operand = .ok c ∧
      c.Asks (Segments.split key) op operand) ∨
    ("" ∈ Segments.split key ∧ ∃ e, parse registry (KeyPath.withOp key op) operand = .error e) := by
  have hread : KeyPath.lookupOf registry (Segments.split (KeyPath.withOp key op)) =
      (Segments.split key, .builtin op) := by
    rw [KeyPath.withOp, Segments.split_append_separator hkey, Segments.split_name,
      KeyPath.lookupOf_concat_of_get? _ hop]
  by_cases hempty : "" ∈ Segments.split key
  · obtain ⟨e, he⟩ : ∃ e, KeyPath.parse registry (KeyPath.withOp key op) = .error e := by
      refine KeyPath.exists_parse_error_iff.2 (.inr (.inr ?_))
      rw [← KeyPath.empty_mem_segments_iff, hread]
      exact hempty
    exact .inr ⟨hempty, e, by rw [parse, he]; rfl⟩
  · obtain ⟨head, rest, hsplit⟩ := List.exists_cons_of_ne_nil (Segments.split_ne_nil key)
    have hparse : KeyPath.parse registry (KeyPath.withOp key op) =
        .ok ⟨KeyPath.withOp key op, head, rest, .builtin op⟩ := by
      refine KeyPath.parse_eq_ok_iff.2 ⟨rfl, hread.trans (by rw [hsplit]; rfl), ?_⟩
      rintro name hname rfl
      exact hempty (hsplit ▸ hname)
    refine .inl ⟨hempty, ⟨⟨KeyPath.withOp key op, head, rest, .builtin op⟩, operand, none⟩, ?_,
      hsplit.symm, rfl, rfl, rfl⟩
    rw [parse, hparse]
    simp only [bind, Except.bind, Lookup.prepare, hprepare]
    rfl

/-- The two queries compile to a clause for a range and the two for its bounds, or neither
compiles. -/
theorem Query.compile_between_within (hkey : key.toList.getLast? ≠ some '_')
    (hregistry : ∀ op ∈ [Op.range, .order .atLeast, .order .atMost],
      registry.get? op.name = some (.builtin op)) (low high : Scalar) :
    (∃ c c₁ c₂, (between key low high).compile registry = .ok [c] ∧
      (within key low high).compile registry = .ok [c₁, c₂] ∧
        Clause.AskBounds (Segments.split key) low high c c₁ c₂) ∨
    ∃ e e', (between key low high).compile registry = .error e ∧
      (within key low high).compile registry = .error e' := by
  have hrange := Clause.parse_withOp hkey (hregistry .range (by simp)) (.list [low, high]) rfl
  have habove := Clause.parse_withOp hkey (hregistry (.order .atLeast) (by simp)) (.scalar low) rfl
  have hbelow := Clause.parse_withOp hkey (hregistry (.order .atMost) (by simp)) (.scalar high) rfl
  rcases hrange with ⟨hempty, c, hc, hasks⟩ | ⟨hempty, e, he⟩
  · obtain ⟨-, c₁, hc₁, hasks₁⟩ := habove.resolve_right fun h => hempty h.1
    obtain ⟨-, c₂, hc₂, hasks₂⟩ := hbelow.resolve_right fun h => hempty h.1
    refine .inl ⟨c, c₁, c₂, ?_, ?_, hasks, hasks₁, hasks₂⟩
    · rw [compile, between, compileEntries, hc]
      rfl
    · rw [compile, within, compileEntries, hc₁, compileEntries, hc₂]
      rfl
  · obtain ⟨-, e', he'⟩ := habove.resolve_left fun h => h.1 hempty
    refine .inr ⟨e, e', ?_, ?_⟩
    · rw [compile, between, compileEntries, he]
      rfl
    · rw [compile, within, compileEntries, he']
      rfl

end Keys

namespace Dataset

variable {d : Dataset} {registry : Registry} {key : String} {low high : Scalar}
  {clauses clauses' : List Clause} {selection : Selection}

/-- Selecting by clauses succeeds just if each of them can be evaluated on each node. -/
theorem isOk_select_iff (hnodes : ∀ n ∈ d.nodes, n.Indexed) (hclauses : clauses ≠ []) :
    (d.select selection clauses).isOk ↔ ∀ n ∈ d.nodes, ∀ c ∈ clauses, (c.holds n).isOk := by
  simp only [← Clause.isOk_allHold_iff]
  cases hd : d.cascade with
  | true =>
    have hselect : d.select selection clauses =
        (narrowMembers selection clauses d.nodes).map ofNodes := by
      simp [select, hd, hclauses]
    rw [hselect, isOk_map, isOk_narrowMembers_iff hnodes]
  | false =>
    rw [select_eq_selectNodes selection hd hclauses, isOk_map, selectNodes_eq, isOk_map,
      isOk_mapM_iff]

/-- Clauses that select less give a part of the nodes, in order. -/
theorem sublist_of_select {r r' : Dataset} (hd : d.cascade = false) (hclauses : clauses ≠ [])
    (hclauses' : clauses' ≠ [])
    (hselects : ∀ n ∈ d.nodes, selection.selects clauses n → selection.selects clauses' n)
    (hr : d.select selection clauses = .ok r) (hr' : d.select selection clauses' = .ok r') :
    r.nodes.Sublist r'.nodes := by
  rw [select_eq_selectNodes _ hd hclauses, map_eq_ok_iff] at hr
  rw [select_eq_selectNodes _ hd hclauses', map_eq_ok_iff] at hr'
  obtain ⟨nodes, hkept, rfl⟩ := hr
  obtain ⟨nodes', hkept', rfl⟩ := hr'
  obtain ⟨-, rfl⟩ := selectNodes_eq_ok_iff.1 hkept
  obtain ⟨-, rfl⟩ := selectNodes_eq_ok_iff.1 hkept'
  have htwice : d.nodes.filter (selection.selects clauses) =
      (d.nodes.filter (selection.selects clauses')).filter (selection.selects clauses) := by
    rw [List.filter_filter]
    refine List.filter_congr fun n hn => ?_
    rw [Bool.eq_iff_iff, Bool.and_eq_true]
    exact ⟨fun h => ⟨h, hselects n hn h⟩, And.left⟩
  exact htwice ▸ List.filter_sublist

/-- **A range agrees with its two bounds,** faults included, where it comes to look at both.

* Let a value not be below the lower bound without an order with the upper one.  Then
  `range` holds, or does not, just if both bounds have an answer, and is the conjunction of
  the two; and it fails for the types of its operands just if one of them does.
* Let a key not end in the character that separators begin with, let its lookups be the
  built-in ones, let the fields of all nodes be indexed by their names, and let no value that
  the key leads to be such a value.  Then filtering by a
  range and filtering by its two bounds succeed together, on every dataset, cascading or
  not.
* All nodes that the range gives on a dataset that does not cascade are given by the
  bounds, in the same order.
* If the key leads to one place from every node at most, the two give the same nodes, and
  narrow them in the same way. -/
theorem filter_between_agrees_within :
    (∀ s low high : Scalar, ¬s.StopsBelow low high →
      (∀ b, Op.range.eval (.scalar s) (.list [low, high]) = .ok b ↔ ∃ b₁ b₂,
        (Op.order .atLeast).eval (.scalar s) (.scalar low) = .ok b₁ ∧
          (Op.order .atMost).eval (.scalar s) (.scalar high) = .ok b₂ ∧ b = (b₁ && b₂)) ∧
      ((∃ left right, Op.range.eval (.scalar s) (.list [low, high]) =
          .error (.typeMismatch "range" left right)) ↔
        (∃ left right, (Op.order .atLeast).eval (.scalar s) (.scalar low) =
          .error (.typeMismatch "gte" left right)) ∨
        ∃ left right, (Op.order .atMost).eval (.scalar s) (.scalar high) =
          .error (.typeMismatch "lte" left right))) ∧
    ∀ (registry : Registry) (key : String) (low high : Scalar) (d : Dataset),
      (∀ op ∈ [Op.range, .order .atLeast, .order .atMost],
        registry.get? op.name = some (.builtin op)) →
      key.toList.getLast? ≠ some '_' → (∀ n ∈ d.nodes, n.Indexed) →
      (∀ n ∈ d.nodes, n.Finishes (Segments.split key) low high) →
      ((d.filter registry (.between key low high)).isOk ↔
        (d.filter registry (.within key low high)).isOk) ∧
      (d.cascade = false → ∀ r r', d.filter registry (.between key low high) = .ok r →
        d.filter registry (.within key low high) = .ok r' → r.nodes.Sublist r'.nodes) ∧
      ((∀ n ∈ d.nodes, (n.placesAlong (Segments.split key)).length ≤ 1) →
        ∀ r, d.filter registry (.between key low high) = .ok r ↔
          d.filter registry (.within key low high) = .ok r) := by
  refine ⟨fun s low high hs => ⟨Op.conjoins_eval_range hs, Op.eval_range_mismatch_iff hs⟩,
    fun registry key low high d hregistry hkey hnodes hfinishes => ?_⟩
  rcases Query.compile_between_within hkey hregistry low high with
    ⟨c, c₁, c₂, hbetween, hwithin, h⟩ | ⟨e, e', hbetween, hwithin⟩
  · have hrange : d.filter registry (.between key low high) = d.select .matching [c] :=
      choose_eq_select .matching hbetween
    have hbounds : d.filter registry (.within key low high) = d.select .matching [c₁, c₂] :=
      choose_eq_select .matching hwithin
    rw [hrange, hbounds]
    refine ⟨?_, fun hd r r' hr hr' => ?_, fun hsingle => ?_⟩
    · rw [isOk_select_iff hnodes (List.cons_ne_nil _ _),
        isOk_select_iff hnodes (List.cons_ne_nil _ _)]
      refine forall₂_congr fun n hn => ?_
      simpa using h.isOk_holds_iff (hfinishes n hn)
    · refine sublist_of_select hd (List.cons_ne_nil _ _) (List.cons_ne_nil _ _)
        (fun n hn hselects => ?_) hr hr'
      rw [selects_matching_iff, List.forall_mem_singleton] at hselects
      rw [selects_matching_iff]
      simpa using h.holds_of_holds (hfinishes n hn) hselects
    · exact toOption_eq_iff.1 <| toOption_select_congr
        (iff_of_false (List.cons_ne_nil _ _) (List.cons_ne_nil _ _))
        (fun n hn => h.toOption_allHold_eq (hfinishes n hn) (hsingle n hn))
        fun n hn => (hnodes n hn).toOption_narrow_eq h (hfinishes n hn) (hsingle n hn) .matching
  · have hrange : d.filter registry (.between key low high) = .error e :=
      choose_of_compile_error .matching hbetween
    have hbounds : d.filter registry (.within key low high) = .error e' :=
      choose_of_compile_error .matching hwithin
    rw [hrange, hbounds]
    refine ⟨iff_of_false Bool.false_ne_true Bool.false_ne_true, ?_, ?_⟩
    · exact fun _ _ _ hr => absurd hr (by simp)
    · exact fun _ _ => iff_of_false (by simp) (by simp)

end Dataset

end

namespace Dataset

/-- The hypotheses are satisfiable: of authors with one book each, one is kept. -/
theorem filter_between_agrees_within_author :
    (¬(Scalar.string "m").StopsBelow (.string "k") (.string "n") ∧
      Op.range.eval (.scalar (.string "m")) (.list [.string "k", .string "n"]) = .ok true) ∧
    (∀ op ∈ [Op.range, .order .atLeast, .order .atMost],
      Registry.builtin.get? op.name = some (.builtin op)) ∧
    "books__genre".toList.getLast? ≠ some '_' ∧
    (∀ n ∈ [author [novel "m"], author [novel "z"]], n.Indexed ∧
      n.Finishes (Segments.split "books__genre") (.string "k") (.string "n") ∧
        (n.placesAlong (Segments.split "books__genre")).length ≤ 1) ∧
    (ofNodes [author [novel "m"], author [novel "z"]]).onCascade.filter .builtin
      (.within "books__genre" (.string "k") (.string "n")) =
        .ok (ofNodes [author [novel "m"]]) := by
  have hstops : ¬(Scalar.string "m").StopsBelow (.string "k") (.string "n") := by
    rintro ⟨-, hhigh⟩
    cases hhigh
  have hregistry : ∀ op ∈ [Op.range, .order .atLeast, .order .atMost],
      Registry.builtin.get? op.name = some (.builtin op) :=
    fun op _ => Registry.builtin_get?_name op
  have hkey : "books__genre".toList.getLast? ≠ some '_' := by decide +kernel
  have hsplit : Segments.split "books__genre" = ["books", "genre"] := by decide +kernel
  have hauthor : ∀ genre, (author [novel genre]).Indexed := fun genre =>
    indexed_author (List.forall_mem_singleton.2 (indexed_novel genre))
  have hplaces : ∀ genre, (author [novel genre]).placesAlong (Segments.split "books__genre") =
      [.value (.scalar (.string genre))] := fun genre => by
    rw [hsplit]
    rfl
  have hnodes : ∀ n ∈ [author [novel "m"], author [novel "z"]], n.Indexed ∧
      n.Finishes (Segments.split "books__genre") (.string "k") (.string "n") ∧
        (n.placesAlong (Segments.split "books__genre")).length ≤ 1 := by
    intro n hn
    simp only [List.mem_cons, List.not_mem_nil, or_false] at hn
    rcases hn with rfl | rfl
    all_goals
      refine ⟨hauthor _, fun s hs => ?_, by rw [hplaces]; rfl⟩
      rw [hplaces, List.mem_singleton] at hs
      cases hs
      rintro ⟨-, hhigh⟩
      cases hhigh
  obtain ⟨hvalue, hfilter⟩ := filter_between_agrees_within
  obtain ⟨-, -, hsame⟩ := hfilter .builtin "books__genre" (.string "k") (.string "n")
    (ofNodes [author [novel "m"], author [novel "z"]]).onCascade hregistry hkey
    (fun n hn => (hnodes n hn).1) (fun n hn => (hnodes n hn).2.1)
  have hrange : (ofNodes [author [novel "m"], author [novel "z"]]).onCascade.filter .builtin
      (.between "books__genre" (.string "k") (.string "n")) =
        .ok (ofNodes [author [novel "m"]]) := by cbv
  exact ⟨⟨hstops, ((hvalue _ _ _ hstops).1 true).2 ⟨true, true, rfl, rfl, rfl⟩⟩, hregistry, hkey,
    hnodes, (hsame (fun n hn => (hnodes n hn).2.2) _).1 hrange⟩

/-- **A range and its bounds do not agree everywhere.**  A value below the range is not
compared with the upper bound, also where it has no order with it; and an author with a book
above the range and one below it is within the bounds but has no book in the range. -/
theorem filter_between_differs_from_within :
    (Op.range.eval (.scalar (.string "a")) (.list [.string "m", .null]) = .ok false ∧
      (Op.order .atMost).eval (.scalar (.string "a")) (.scalar .null) =
        .error (.typeMismatch "lte" .string .null)) ∧
    (ofNodes [author [novel "a", novel "z"]]).filter .builtin
      (.between "books__genre" (.string "m") (.string "n")) = .ok (ofNodes []) ∧
    (ofNodes [author [novel "a", novel "z"]]).filter .builtin
      (.within "books__genre" (.string "m") (.string "n")) =
        .ok (ofNodes [author [novel "a", novel "z"]]) :=
  ⟨⟨rfl, rfl⟩, rfl, rfl⟩

end Dataset
end RecordQuery
