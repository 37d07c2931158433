/-
# Filtering along a path and filtering what it leads to

There are two ways to ask a question of nodes that are nested in the nodes of a
dataset.  A cascading dataset can be filtered by a key that begins with the names
of the fields that lead to them; or the nested nodes can be gathered first, one
field after the other, and filtered by the rest of the key.  The first way keeps
the nodes around those that are selected, the second drops them.

They agree.  Either succeeds if the names lead on from every node
(`Node.Leads`) and the rest of the key can be evaluated on all nodes that they
lead to (`Clause.isOk_holds_prepend_iff`), and what one selects is what the result
of the other leads to (`narrowMembers_along`): a node that is dropped on the way
leads to none that is selected.
-/

import RecordQuery.Proofs.Leading
import RecordQuery.Proofs.Spelling

namespace RecordQuery

/-! ### A clause with names in front -/

/-- What remains of a path after the first of the names in front of it is the path with the
other names in front. -/
theorem KeyPath.tail?_prepend (name : String) (names : List String) (path : KeyPath) :
    (path.prepend (name :: names)).tail? = some (path.prepend names) := by
  have hkey : (path.prepend (name :: names)).key.toList.drop
      (name.length + Segments.separator.length) = (path.prepend names).key.toList := by
    rw [key_prepend, key_prepend, Segments.join_append_singleton_cons, String.toList_append,
      String.toList_append]
    refine List.drop_left' ?_
    rw [List.length_append, String.length_toList, String.length_toList]
  have htail : (path.prepend (name :: names)).tail? = some
      ⟨String.ofList (path.prepend names).key.toList, (path.prepend names).head,
        (path.prepend names).rest, (path.prepend names).lookup⟩ := by
    rw [← hkey]
    cases names <;> rfl
  rw [htail, String.ofList_toList]

/-- A scan of tests that are scans themselves is one scan. -/
theorem KeyPath.anyMember_eq_ok_iff_flatMap {α β : Type} {test : α → Except LookupError Bool}
    {inner : β → Except LookupError Bool} {P : α → Prop} {f : α → List β}
    (h : ∀ a b, test a = .ok b ↔ P a ∧ anyMember inner (f a) = .ok b) {as : List α} {b : Bool} :
    anyMember test as = .ok b ↔
      (∀ a ∈ as, P a) ∧ anyMember inner (as.flatMap f) = .ok b := by
  induction as generalizing b with
  | nil => simp [anyMember]
  | cons a as ih =>
    simp only [List.flatMap_cons, anyMember_append, anyMember, bind_eq_ok_iff, h, ih,
      List.forall_mem_cons]
    grind

section

variable [PatternEngine]

namespace Clause

/-- A clause with names in front of its key. -/
def prepend (names : List String) (c : Clause) : Clause :=
  { c with path := c.path.prepend names }

/-- No names in front change nothing. -/
theorem prepend_nil (c : Clause) : c.prepend [] = c := rfl

variable {c c' : Clause} {n : Node} {name : String} {names : List String} {b : Bool}

/-- A clause with names in front goes on as the clause without the first of them. -/
theorem descend?_prepend (name : String) (names : List String) (c : Clause) :
    (c.prepend (name :: names)).descend? = some (c.prepend names) := by
  rw [descend?, prepend, KeyPath.tail?_prepend]
  rfl

/-- So it asks of the nodes under the first name what is left of it. -/
theorem under_prepend (name : String) (names : List String) (c : Clause) :
    under name [c.prepend (name :: names)] = [c.prepend names] := by
  have hhead : (c.prepend (name :: names)).head = name := rfl
  simp [under, hhead, descend?_prepend]

/-- A clause whose path goes on after its first field can be evaluated only where that
field holds nodes. -/
theorem hasRelated_of_holds (h : c.descend? = some c') (hok : c.holds n = .ok b) :
    n.HasRelated c.head := by
  obtain ⟨hrest, -⟩ := descend?_eq_some h
  rw [holds, KeyPath.resolveWith, hrest, KeyPath.segments, KeyPath.follow] at hok
  obtain ⟨field, hget, hok⟩ := bind_eq_ok_iff.1 hok
  refine ⟨field, Node.get_eq_ok_iff.1 hget, ?_⟩
  obtain ⟨_, content⟩ := field
  cases content with
  | scalar s => cases hok
  | array items => cases hok
  | _ => rfl

/-- **A clause with names in front asks the clause of all nodes that the names lead
to.** -/
theorem holds_prepend_eq_ok_iff : (c.prepend names).holds n = .ok b ↔
    n.Leads names ∧ KeyPath.anyMember c.holds (n.along names) = .ok b := by
  induction names generalizing n b with
  | nil => rw [prepend_nil, Node.along, KeyPath.anyMember_singleton, Node.Leads, true_and]
  | cons name names ih =>
    have hbelow (field : Field) (hget : n.get? name = some field)
        (hr : field.isRelated) : (c.prepend (name :: names)).holds n = .ok b ↔
          KeyPath.anyMember (c.prepend names).holds field.related = .ok b :=
      holds_eq_ok_iff (descend?_prepend name names c) hget hr
    have hstep : (c.prepend (name :: names)).holds n = .ok b ↔ n.HasRelated name ∧
        KeyPath.anyMember (c.prepend names).holds (n.relatedIn name) = .ok b := by
      constructor
      · intro h
        obtain ⟨field, hget, hr⟩ := hasRelated_of_holds (descend?_prepend name names c) h
        exact ⟨⟨field, hget, hr⟩, Node.relatedIn_eq hget ▸ (hbelow field hget hr).1 h⟩
      · rintro ⟨⟨field, hget, hr⟩, h⟩
        exact (hbelow field hget hr).2 (Node.relatedIn_eq hget ▸ h)
    rw [hstep, KeyPath.anyMember_eq_ok_iff_flatMap fun _ _ => ih, Node.Leads, and_assoc]
    rfl

/-- So it can be evaluated if the names lead on and the clause can be evaluated wherever they
lead. -/
theorem isOk_holds_prepend_iff : ((c.prepend names).holds n).isOk ↔
    n.Leads names ∧ ∀ child ∈ n.along names, (c.holds child).isOk := by
  simp [isOk_iff (r := (c.prepend names).holds n), holds_prepend_eq_ok_iff,
    KeyPath.anyMember_eq_ok_iff]

/-- One clause holds by itself. -/
theorem allHold_singleton (c : Clause) (n : Node) : allHold n [c] = c.holds n := by
  cases h : c.holds n <;> simp [allHold, h, bind, Except.bind, pure, Except.pure]

end Clause

/-! ### Narrowing along names -/

section Narrowing

variable {selection : Selection} {clauses : List Clause} {nodes nodes' : List Node}

/-- Two datasets that can be narrowed can be narrowed together. -/
theorem narrowMembers_append {kept kept' : List Node}
    (h : narrowMembers selection clauses nodes = .ok kept)
    (h' : narrowMembers selection clauses nodes' = .ok kept') :
    narrowMembers selection clauses (nodes ++ nodes') = .ok (kept ++ kept') := by
  induction nodes generalizing kept with
  | nil =>
    cases h
    exact h'
  | cons n nodes ih =>
    rw [narrowMembers] at h
    obtain ⟨holds, hholds, h⟩ := bind_eq_ok_iff.1 h
    rw [List.cons_append]
    split at h
    · rename_i hkeeps
      obtain ⟨n', hn', h⟩ := bind_eq_ok_iff.1 h
      obtain ⟨rest, hrest, h⟩ := bind_eq_ok_iff.1 h
      cases h
      rw [narrowMembers_cons_of_keeps hholds _ hkeeps, hn', ih hrest]
      rfl
    · rename_i hkeeps
      rw [narrowMembers_cons_of_not_keeps hholds _ hkeeps]
      exact ih h

/-- Where nothing is selected, nothing is kept. -/
theorem narrowMembers_eq_nil
    (h : ∀ n ∈ nodes, ∃ holds, Clause.allHold n clauses = .ok holds ∧ ¬selection.keeps holds) :
    narrowMembers selection clauses nodes = .ok [] := by
  induction nodes with
  | nil => rfl
  | cons n nodes ih =>
    obtain ⟨⟨holds, hholds, hkeeps⟩, hnodes⟩ := List.forall_mem_cons.1 h
    rw [narrowMembers_cons_of_not_keeps hholds nodes hkeeps]
    exact ih hnodes

/-- Indexed nodes can be narrowed as soon as they can be tested. -/
theorem isOk_narrowMembers_iff (hnodes : ∀ n ∈ nodes, n.Indexed) :
    (narrowMembers selection clauses nodes).isOk ↔
      ∀ n ∈ nodes, (Clause.allHold n clauses).isOk := by
  have hnarrow : ∀ n ∈ nodes, (Clause.allHold n clauses).isOk →
      (n.narrow selection clauses).isOk := fun n hn hok =>
    (hnodes n hn).isOk_narrow (Clause.isOk_allHold_iff.1 hok)
  constructor
  · intro h
    obtain ⟨kept, h⟩ := isOk_iff.1 h
    rw [narrowMembers_eq_bind hnarrow] at h
    obtain ⟨selected, hselected, -⟩ := bind_eq_ok_iff.1 h
    exact (selectNodes_eq_ok_iff.1 hselected).1
  · exact fun h => isOk_narrowMembers fun n hn => ⟨h n hn, hnarrow n hn (h n hn)⟩

/-- **Narrowing along names succeeds if they lead on from every node** and narrowing the
nodes that they lead to succeeds. -/
theorem isOk_narrowMembers_prepend_iff {c : Clause} {names : List String}
    (hnodes : ∀ n ∈ nodes, n.Indexed) :
    (narrowMembers selection [c.prepend names] nodes).isOk ↔
      (∀ n ∈ nodes, n.Leads names) ∧
        (narrowMembers selection [c] (nodes.flatMap (Node.along names))).isOk := by
  have hreached : ∀ child ∈ nodes.flatMap (Node.along names), child.Indexed := by
    intro child hchild
    obtain ⟨n, hn, hchild⟩ := List.mem_flatMap.1 hchild
    exact (hnodes n hn).of_along hchild
  rw [isOk_narrowMembers_iff hnodes, isOk_narrowMembers_iff hreached]
  simp only [Clause.allHold_singleton, Clause.isOk_holds_prepend_iff, List.mem_flatMap]
  grind

/-- A narrowed node has its fields narrowed. -/
theorem Node.Named.exists_get?_of_narrow {n n' : Node} (hn : n.Named)
    (h : n.narrow selection clauses = .ok n') {name : String} {field : Field}
    (hget : n.get? name = some field) : ∃ field', n'.get? name = some field' ∧
      field.content.narrow selection (Clause.under name clauses) = .ok field'.content := by
  have hfields : List.Forall₂ (fun entry entry' => entry.1 = entry'.1 ∧
      entry.2.content.narrow selection (Clause.under entry.1 clauses) = .ok entry'.2.content)
      n.fields n'.fields :=
    (hn.forall₂_of_narrow h).imp fun _ _ ⟨hname, _, hcontent⟩ => ⟨hname, hcontent⟩
  exact Entries.exists_get?_of_forall₂ (R := fun name (field field' : Field) =>
    field.content.narrow selection (Clause.under name clauses) = .ok field'.content) hfields hget

/-- Narrowing leaves values values. -/
theorem Content.isRelated_of_narrow {content content' : Content}
    (h : content.narrow selection clauses = .ok content') :
    content'.isRelated = content.isRelated := by
  rcases cases_of_narrow h with ⟨rfl, -⟩ | ⟨n, n', rfl, rfl, -⟩ |
    ⟨members, members', rfl, rfl, -⟩ <;> rfl

variable {c : Clause} {names : List String}

/-- Where names lead on from a node, they lead on from it when it is narrowed. -/
theorem Node.Leads.of_narrow {n n' : Node} (hn : n.Leads names) (hnamed : n.Named)
    (h : n.narrow selection clauses = .ok n') : n'.Leads names := by
  induction names generalizing clauses n n' with
  | nil => trivial
  | cons name names ih =>
    obtain ⟨⟨field, hget, hr⟩, hbelow⟩ := hn
    obtain ⟨field', hget', hcontent⟩ := hnamed.exists_get?_of_narrow h hget
    have hr' : field'.isRelated := (Content.isRelated_of_narrow hcontent).trans hr
    refine ⟨⟨field', hget', hr'⟩, fun child' hchild' => ?_⟩
    rw [relatedIn_eq hget'] at hchild'
    obtain ⟨child, hchild, hnarrow⟩ := Content.exists_of_narrow hcontent hchild'
    exact ih (hbelow child (relatedIn_eq hget ▸ hchild)) (hnamed.of_related hget hchild) hnarrow

/-- **The nodes of the first field are narrowed as members of a dataset are,** also
where the field holds a single node: if the clause holds of a node, it holds of the
one that the field holds. -/
theorem narrowMembers_relatedIn {name : String} {n n' : Node} (hn : n.Named)
    (hholds : (c.prepend (name :: names)).holds n = .ok true)
    (h : n.narrow .matching [c.prepend (name :: names)] = .ok n') :
    narrowMembers .matching [c.prepend names] (n.relatedIn name) = .ok (n'.relatedIn name) := by
  have hdescend := Clause.descend?_prepend name names c
  obtain ⟨field, hget, hr⟩ : n.HasRelated name := Clause.hasRelated_of_holds hdescend hholds
  obtain ⟨⟨name', content'⟩, hget', hcontent⟩ := hn.exists_get?_of_narrow h hget
  rw [Clause.under_prepend] at hcontent
  rw [Node.relatedIn_eq hget, Node.relatedIn_eq hget']
  obtain ⟨_, content⟩ := field
  cases content with
  | scalar s => cases hr
  | array items => cases hr
  | node child =>
    rw [Content.narrow_node, map_eq_ok_iff] at hcontent
    obtain ⟨child', hchild', rfl⟩ := hcontent
    have hany : KeyPath.anyMember (c.prepend names).holds [child] = .ok true :=
      (Clause.holds_eq_ok_iff hdescend hget hr).1 hholds
    rw [KeyPath.anyMember_singleton, ← Clause.allHold_singleton] at hany
    rw [Field.related, Content.related, narrowMembers_cons_of_keeps hany [] rfl, hchild']
    rfl
  | dataset members =>
    rw [Content.narrow_dataset (List.cons_ne_nil _ _), map_eq_ok_iff] at hcontent
    obtain ⟨members', hmembers', rfl⟩ := hcontent
    exact hmembers'

/-- **What is selected along names is what is selected of the nodes that they lead
to.** -/
theorem narrowMembers_along (hnodes : ∀ n ∈ nodes, n.Named)
    (h : narrowMembers .matching [c.prepend names] nodes = .ok nodes') :
    narrowMembers .matching [c] (nodes.flatMap (Node.along names)) =
      .ok (nodes'.flatMap (Node.along names)) := by
  induction names generalizing nodes nodes' with
  | nil => rwa [Node.along_nil, Node.along_nil]
  | cons name names ih =>
    induction nodes generalizing nodes' with
    | nil =>
      cases h
      rfl
    | cons n nodes ihnodes =>
      obtain ⟨hn, hnodes⟩ := List.forall_mem_cons.1 hnodes
      rw [narrowMembers, Clause.allHold_singleton] at h
      obtain ⟨holds, hholds, h⟩ := bind_eq_ok_iff.1 h
      rw [List.flatMap_cons]
      cases holds with
      | true =>
        obtain ⟨n', hn', h⟩ := bind_eq_ok_iff.1 h
        obtain ⟨rest, hrest, h⟩ := bind_eq_ok_iff.1 h
        cases h
        rw [List.flatMap_cons]
        have hrelated : ∀ child ∈ n.relatedIn name, child.Named := fun child hchild =>
          hn.of_relatedIn hchild
        exact narrowMembers_append (ih hrelated (narrowMembers_relatedIn hn hholds hn'))
          (ihnodes hnodes hrest)
      | false =>
        -- A node that is dropped leads to no node that the clause holds of.
        obtain ⟨-, hany⟩ := Clause.holds_prepend_eq_ok_iff.1 hholds
        obtain ⟨hok, hnone⟩ := KeyPath.anyMember_eq_ok_iff.1 hany
        have hdropped : narrowMembers .matching [c] (n.along (name :: names)) = .ok [] := by
          refine narrowMembers_eq_nil fun child hchild => ?_
          obtain ⟨holds, hholds⟩ := isOk_iff.1 (hok child hchild)
          refine ⟨holds, (Clause.allHold_singleton c child).trans hholds, ?_⟩
          rintro rfl
          exact List.any_eq_false.1 hnone.symm child hchild (decide_eq_true hholds)
        exact narrowMembers_append hdropped (ihnodes hnodes h)

end Narrowing

/-! ### The two ways -/

section

variable {registry : Registry} {names : List String} {key : String} {path : KeyPath}

/-- A key with names in front is read as what the key alone is read as, with these names in
front. -/
theorem Clause.parse_join (hnames : ∀ name ∈ names, Segments.Spellable name)
    (h : KeyPath.parse registry key = .ok path) (operand : Operand) :
    parse registry (Segments.join (names ++ [key])) operand =
      (parse registry key operand).map (prepend names) := by
  rw [parse, parse, KeyPath.parse_join hnames h, h]
  simp only [bind, Except.bind, KeyPath.lookup_prepend]
  cases path.lookup.prepare operand <;> rfl

namespace Dataset

variable {d : Dataset}

/-- A cascading filter by one predicate narrows by its clause. -/
theorem filter_singleton_eq_ok_iff {operand : Operand} {nodes : List Node} {r : Dataset} :
    filter registry ⟨[(key, operand)]⟩ ⟨nodes, true⟩ = .ok r ↔
      ∃ c, Clause.parse registry key operand = .ok c ∧
        ∃ kept, narrowMembers .matching [c] nodes = .ok kept ∧ ofNodes kept = r := by
  rw [filter, Query.compile_singleton]
  cases Clause.parse registry key operand with
  | error e => simp [bind, Except.bind, Except.map]
  | ok c =>
    simp only [Except.ok.injEq, exists_eq_left', ← map_eq_ok_iff]
    rfl

/-- Filtering nested nodes by one predicate narrows what the names lead to. -/
theorem filterRelated_singleton_eq_ok_iff (hne : names ≠ [])
    (hnames : ∀ name ∈ names, Segments.Spellable name ∧ '.' ∉ name.toList) {operand : Operand}
    {p : Dataset} :
    d.onCascade.filterRelated registry (".".intercalate names) ⟨[(key, operand)]⟩ = .ok p ↔
      (∀ n ∈ d.nodes, n.Leads names) ∧ ∃ c, Clause.parse registry key operand = .ok c ∧
        ∃ kept, narrowMembers .matching [c] (d.nodes.flatMap (Node.along names)) = .ok kept ∧
          ofNodes kept = p := by
  have hsegments := dottedSegments_intercalate hne fun name hname => (hnames name hname).2
  rw [filterRelated, hsegments, bind_eq_ok_iff]
  simp only [followSegments_eq_ok_iff fun name hname => (hnames name hname).1.ne_empty]
  simp only [onCascade, filter_singleton_eq_ok_iff]
  grind

/-- **Filtering along names and filtering what they lead to agree.**  Let the fields of all
nodes of a dataset be indexed by their names, at any depth, let a key parse by itself and
let some names be spellable and without dots.

* Filtering the cascading dataset by the key with the names in front succeeds if and
  only if filtering the nodes succeeds that the dotted names lead to.
* Then the names lead on from every node of the first result, and what they lead to,
  one node after the other, is the second result. -/
theorem filter_join_agrees_filterRelated (hnodes : ∀ n ∈ d.nodes, n.Indexed) (hne : names ≠ [])
    (hnames : ∀ name ∈ names, Segments.Spellable name ∧ '.' ∉ name.toList)
    (hkey : (KeyPath.parse registry key).isOk) (operand : Operand) :
    ((d.onCascade.filter registry ⟨[(Segments.join (names ++ [key]), operand)]⟩).isOk ↔
      (d.onCascade.filterRelated registry (".".intercalate names) ⟨[(key, operand)]⟩).isOk) ∧
    ∀ r, d.onCascade.filter registry ⟨[(Segments.join (names ++ [key]), operand)]⟩ = .ok r →
      (∀ n ∈ r.nodes, n.Leads names) ∧
        d.onCascade.filterRelated registry (".".intercalate names) ⟨[(key, operand)]⟩ =
          .ok (ofNodes (r.nodes.flatMap (Node.along names))) := by
  obtain ⟨path, hpath⟩ := isOk_iff.1 hkey
  have hnamed : ∀ n ∈ d.nodes, n.Named := fun n hn => (hnodes n hn).named
  have hparse := Clause.parse_join (fun name hname => (hnames name hname).1) hpath operand
  have hagree : ∀ r,
      d.onCascade.filter registry ⟨[(Segments.join (names ++ [key]), operand)]⟩ = .ok r →
        (∀ n ∈ r.nodes, n.Leads names) ∧
          d.onCascade.filterRelated registry (".".intercalate names) ⟨[(key, operand)]⟩ =
            .ok (ofNodes (r.nodes.flatMap (Node.along names))) := by
    intro r hr
    obtain ⟨_, hc, kept, hkept, rfl⟩ := filter_singleton_eq_ok_iff.1 hr
    rw [hparse, map_eq_ok_iff] at hc
    obtain ⟨c, hc, rfl⟩ := hc
    obtain ⟨hleads, -⟩ := (isOk_narrowMembers_prepend_iff hnodes).1 (isOk_iff.2 ⟨kept, hkept⟩)
    refine ⟨fun n' hn' => ?_, (filterRelated_singleton_eq_ok_iff hne hnames).2
      ⟨hleads, c, hc, _, narrowMembers_along hnamed hkept, rfl⟩⟩
    obtain ⟨n, hn, hnarrow⟩ := exists_of_narrowMembers hkept hn'
    exact (hleads n hn).of_narrow (hnamed n hn) hnarrow
  refine ⟨⟨fun h => ?_, fun h => ?_⟩, hagree⟩
  · obtain ⟨r, hr⟩ := isOk_iff.1 h
    exact isOk_iff.2 ⟨_, (hagree r hr).2⟩
  · obtain ⟨p, hp⟩ := isOk_iff.1 h
    obtain ⟨hleads, c, hc, kept, hkept, -⟩ := (filterRelated_singleton_eq_ok_iff hne hnames).1 hp
    have hok : (narrowMembers .matching [c.prepend names] d.nodes).isOk :=
      (isOk_narrowMembers_prepend_iff hnodes).2 ⟨hleads, isOk_iff.2 ⟨kept, hkept⟩⟩
    obtain ⟨kept', hkept'⟩ := isOk_iff.1 hok
    exact isOk_iff.2 ⟨_, filter_singleton_eq_ok_iff.2
      ⟨_, hparse.trans (map_eq_ok_iff.2 ⟨c, hc, rfl⟩), kept', hkept', rfl⟩⟩

end Dataset

end

end

namespace Dataset

/-- The hypotheses are satisfiable.  The key `books__genre` drops the second author and
one book of the first; filtering the books by `genre` finds the other one. -/
theorem filter_join_agrees_filterRelated_author :
    (∀ n ∈ [author [novel "x", novel "y"], author [novel "y"]], n.Indexed) ∧
    (["books"] ≠ [] ∧ ∀ name ∈ ["books"], Segments.Spellable name ∧ '.' ∉ name.toList) ∧
    (KeyPath.parse .builtin "genre").isOk ∧
    (ofNodes [author [novel "x", novel "y"], author [novel "y"]]).onCascade.filter .builtin
      ⟨[("books__genre", .scalar (.string "x"))]⟩ = .ok (ofNodes [author [novel "x"]]) ∧
    (ofNodes [author [novel "x", novel "y"], author [novel "y"]]).onCascade.filterRelated .builtin
      "books" ⟨[("genre", .scalar (.string "x"))]⟩ = .ok (ofNodes [novel "x"]) := by
  have hnodes : ∀ n ∈ [author [novel "x", novel "y"], author [novel "y"]], n.Indexed :=
    List.forall_mem_cons.2 ⟨indexed_author (by simp [indexed_novel]),
      List.forall_mem_singleton.2 (indexed_author (by simp [indexed_novel]))⟩
  have hnames : ∀ name ∈ ["books"], Segments.Spellable name ∧ '.' ∉ name.toList :=
    List.forall_mem_singleton.2 ⟨⟨by decide, by decide +kernel, by decide +kernel⟩,
      by decide +kernel⟩
  have hkey : (KeyPath.parse .builtin "genre").isOk := by decide +kernel
  have hfilter : (ofNodes [author [novel "x", novel "y"], author [novel "y"]]).onCascade.filter
      .builtin ⟨[("books__genre", .scalar (.string "x"))]⟩ =
        .ok (ofNodes [author [novel "x"]]) := by cbv
  obtain ⟨-, hagree⟩ := filter_join_agrees_filterRelated
    (d := ofNodes [author [novel "x", novel "y"], author [novel "y"]]) hnodes
    (List.cons_ne_nil "books" []) hnames hkey (.scalar (.string "x"))
  exact ⟨hnodes, ⟨List.cons_ne_nil _ _, hnames⟩, hkey, hfilter, (hagree _ hfilter).2⟩

end Dataset
end RecordQuery
