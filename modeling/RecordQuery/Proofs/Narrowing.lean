/-
# What narrowing keeps

Narrowing goes down one field at a time and hands every clause on without its first
segment.  A nested dataset keeps the members that the remainders of all clauses leading
into it select, judged as they were before they are narrowed themselves, and everything
that no clause leads into stays as it is (`Narrowed`).
-/

import RecordQuery.Proofs.Remainders

namespace RecordQuery

section

variable [PatternEngine]

/-! ### The narrowed node -/

mutual

/-- `Narrowed selection clauses names n n'`: the node `n`, found along `names`, is
narrowed to `n'`. -/
inductive Narrowed (selection : Selection) (clauses : List Clause) :
    List String → Node → Node → Prop where
  | ofFields {names : List String} {fields fields' : List (String × Field)} :
    NarrowedFields selection clauses names fields fields' →
      Narrowed selection clauses names (.ofFields fields) (.ofFields fields')

/-- The fields of a narrowed node have the same names in the same order, and stand under the
names that they bear. -/
inductive NarrowedFields (selection : Selection) (clauses : List Clause) :
    List String → List (String × Field) → List (String × Field) → Prop where
  | nil {names : List String} : NarrowedFields selection clauses names [] []
  | cons {names : List String} {name : String} {content content' : Content}
      {fields fields' : List (String × Field)} :
    NarrowedContent selection clauses (names ++ [name]) content content' →
      NarrowedFields selection clauses names fields fields' →
        NarrowedFields selection clauses names ((name, ⟨name, content⟩) :: fields)
          ((name, ⟨name, content'⟩) :: fields')

/-- What the field found along `names` holds is left untouched if no clause leads
on from there, and keeps its shape in any case. -/
inductive NarrowedContent (selection : Selection) (clauses : List Clause) :
    List String → Content → Content → Prop where
  | untouched {names : List String} {content : Content} :
    Clause.remainders names clauses = [] →
      NarrowedContent selection clauses names content content
  | scalar {names : List String} (s : Scalar) :
    NarrowedContent selection clauses names (.scalar s) (.scalar s)
  | array {names : List String} (items : List Scalar) :
    NarrowedContent selection clauses names (.array items) (.array items)
  | node {names : List String} {n n' : Node} :
    Clause.remainders names clauses ≠ [] → Narrowed selection clauses names n n' →
      NarrowedContent selection clauses names (.node n) (.node n')
  | dataset {names : List String} {members members' : List Node} :
    Clause.remainders names clauses ≠ [] →
      NarrowedMembers selection clauses names members members' →
        NarrowedContent selection clauses names (.dataset members) (.dataset members')

/-- The members of the dataset found along `names` are kept if the selection keeps
them for what remains of the clauses, and each one that is kept is narrowed. -/
inductive NarrowedMembers (selection : Selection) (clauses : List Clause) :
    List String → List Node → List Node → Prop where
  | nil {names : List String} : NarrowedMembers selection clauses names [] []
  | keep {names : List String} {m m' : Node} {members members' : List Node} {holds : Bool} :
    Clause.allHold m (Clause.remainders names clauses) = .ok holds → selection.keeps holds →
      Narrowed selection clauses names m m' →
        NarrowedMembers selection clauses names members members' →
          NarrowedMembers selection clauses names (m :: members) (m' :: members')
  | drop {names : List String} {m : Node} {members members' : List Node} {holds : Bool} :
    Clause.allHold m (Clause.remainders names clauses) = .ok holds → ¬selection.keeps holds →
      NarrowedMembers selection clauses names members members' →
        NarrowedMembers selection clauses names (m :: members) members'

end

variable {selection : Selection} {clauses : List Clause} {names : List String}

mutual

/-- **Narrowing by what remains of clauses gives the narrowed node.**  The recursion
is on the node, and `names` grows by one name with every field that it enters. -/
theorem Node.narrowed_of_narrow : ∀ {names : List String} {n n' : Node}, n.Named →
    n.narrow selection (Clause.remainders names clauses) = .ok n' →
      Narrowed selection clauses names n n'
  | names, .ofFields fields, n', hn, h => by
    obtain ⟨hnames, hchildren⟩ := hn
    rw [Node.narrow_eq_map hnames, map_eq_ok_iff] at h
    obtain ⟨fields', hfields, rfl⟩ := h
    exact .ofFields (narrowedFields_of_narrowFields hnames hchildren hfields)

/-- Narrowing fields gives the fields of the narrowed node. -/
theorem narrowedFields_of_narrowFields : ∀ {names : List String}
    {fields fields' : List (String × Field)}, (∀ entry ∈ fields, entry.2.name = entry.1) →
    (∀ entry ∈ fields, ∀ child ∈ entry.2.related, child.Named) →
    narrowFields selection (Clause.remainders names clauses) fields = .ok fields' →
      NarrowedFields selection clauses names fields fields'
  | names, [], fields', _, _, h => by
    obtain rfl : [] = fields' := Except.ok.inj h
    exact .nil
  | names, (key, ⟨name, content⟩) :: fields, fields', hnames, hchildren, h => by
    obtain ⟨hname, hrestNames⟩ := List.forall_mem_cons.1 hnames
    obtain ⟨hchild, hrestChildren⟩ := List.forall_mem_cons.1 hchildren
    obtain rfl : name = key := hname
    rw [narrowFields, Clause.under_remainders] at h
    obtain ⟨content', hcontent, h⟩ := bind_eq_ok_iff.1 h
    obtain ⟨rest, hrest, h⟩ := bind_eq_ok_iff.1 h
    obtain rfl : (name, ⟨name, content'⟩) :: rest = fields' := Except.ok.inj h
    exact .cons (Content.narrowed_of_narrow hchild hcontent)
      (narrowedFields_of_narrowFields hrestNames hrestChildren hrest)

/-- Narrowing what a field holds gives what the field of the narrowed node holds. -/
theorem Content.narrowed_of_narrow : ∀ {names : List String} {content content' : Content},
    (∀ child ∈ content.related, child.Named) →
    content.narrow selection (Clause.remainders names clauses) = .ok content' →
      NarrowedContent selection clauses names content content'
  | names, .scalar s, content', _, h => by
    obtain rfl : Content.scalar s = content' := Except.ok.inj h
    exact .scalar s
  | names, .array items, content', _, h => by
    obtain rfl : Content.array items = content' := Except.ok.inj h
    exact .array items
  | names, .node n, content', hchildren, h => by
    by_cases hnone : Clause.remainders names clauses = []
    · rw [hnone, Content.narrow_nil] at h
      obtain rfl : Content.node n = content' := Except.ok.inj h
      exact .untouched hnone
    · rw [Content.narrow_node, map_eq_ok_iff] at h
      obtain ⟨n', hn, rfl⟩ := h
      exact .node hnone (Node.narrowed_of_narrow (hchildren n (List.mem_singleton.2 rfl)) hn)
  | names, .dataset members, content', hchildren, h => by
    by_cases hnone : Clause.remainders names clauses = []
    · rw [hnone, Content.narrow_nil] at h
      obtain rfl : Content.dataset members = content' := Except.ok.inj h
      exact .untouched hnone
    · rw [Content.narrow_dataset hnone, map_eq_ok_iff] at h
      obtain ⟨members', hmembers, rfl⟩ := h
      exact .dataset hnone (narrowedMembers_of_narrowMembers hchildren hmembers)

/-- Narrowing the members of a dataset gives the members that are kept, each narrowed. -/
theorem narrowedMembers_of_narrowMembers : ∀ {names : List String}
    {members members' : List Node}, (∀ m ∈ members, m.Named) →
    narrowMembers selection (Clause.remainders names clauses) members = .ok members' →
      NarrowedMembers selection clauses names members members'
  | names, [], members', _, h => by
    obtain rfl : [] = members' := Except.ok.inj h
    exact .nil
  | names, m :: members, members', hnamed, h => by
    obtain ⟨hfirst, hnamed⟩ := List.forall_mem_cons.1 hnamed
    rw [narrowMembers] at h
    obtain ⟨holds, hholds, h⟩ := bind_eq_ok_iff.1 h
    by_cases hkeeps : selection.keeps holds
    · rw [if_pos hkeeps] at h
      obtain ⟨m', hm, h⟩ := bind_eq_ok_iff.1 h
      obtain ⟨rest, hrest, h⟩ := bind_eq_ok_iff.1 h
      obtain rfl : m' :: rest = members' := Except.ok.inj h
      exact .keep hholds hkeeps (Node.narrowed_of_narrow hfirst hm)
        (narrowedMembers_of_narrowMembers hnamed hrest)
    · rw [if_neg hkeeps] at h
      exact .drop hholds hkeeps (narrowedMembers_of_narrowMembers hnamed h)

end

/-- Fields that can be narrowed stand under the names that they bear. -/
theorem NarrowedFields.name_eq {fields fields' : List (String × Field)}
    (h : NarrowedFields selection clauses names fields fields') :
    ∀ entry ∈ fields, entry.2.name = entry.1 := by
  induction fields generalizing fields' with
  | nil => exact List.forall_mem_nil _
  | cons entry fields ih =>
    cases h with
    | cons _ hfields => exact List.forall_mem_cons.2 ⟨rfl, ih hfields⟩

mutual

/-- A narrowed node is what narrowing gives. -/
theorem Narrowed.narrow_eq : ∀ {names : List String} {n n' : Node},
    Narrowed selection clauses names n n' →
      n.narrow selection (Clause.remainders names clauses) = .ok n'
  | _, .ofFields fields, _, .ofFields hfields => by
    have hnames : ∀ entry ∈ (Node.ofFields fields).fields, entry.2.name = entry.1 :=
      hfields.name_eq
    rw [Node.narrow_eq_map hnames, Node.fields, hfields.narrowFields_eq]
    rfl

/-- The fields of a narrowed node are what narrowing gives. -/
theorem NarrowedFields.narrowFields_eq : ∀ {names : List String}
    {fields fields' : List (String × Field)},
    NarrowedFields selection clauses names fields fields' →
      narrowFields selection (Clause.remainders names clauses) fields = .ok fields'
  | _, _, _, .nil => rfl
  | _, _, _, .cons hcontent hfields => by
    rw [narrowFields, Clause.under_remainders, hcontent.narrow_eq, hfields.narrowFields_eq]
    rfl

/-- What a field of a narrowed node holds is what narrowing gives. -/
theorem NarrowedContent.narrow_eq : ∀ {names : List String} {content content' : Content},
    NarrowedContent selection clauses names content content' →
      content.narrow selection (Clause.remainders names clauses) = .ok content'
  | _, content, _, .untouched hnone => by rw [hnone, Content.narrow_nil]
  | _, _, _, .scalar s => rfl
  | _, _, _, .array items => rfl
  | _, _, _, .node _ hn => by
    rw [Content.narrow_node, hn.narrow_eq]
    rfl
  | _, _, _, .dataset hsome hmembers => by
    rw [Content.narrow_dataset hsome, hmembers.narrowMembers_eq]
    rfl

/-- The members of a narrowed dataset are what narrowing gives. -/
theorem NarrowedMembers.narrowMembers_eq : ∀ {names : List String} {members members' : List Node},
    NarrowedMembers selection clauses names members members' →
      narrowMembers selection (Clause.remainders names clauses) members = .ok members'
  | _, _, _, .nil => rfl
  | _, _, _, .keep hholds hkeeps hm hmembers => by
    rw [narrowMembers_cons_of_keeps hholds _ hkeeps, hm.narrow_eq, hmembers.narrowMembers_eq]
    rfl
  | _, _, _, .drop hholds hkeeps hmembers => by
    rw [narrowMembers_cons_of_not_keeps hholds _ hkeeps, hmembers.narrowMembers_eq]

end

/-- **The members that are kept** are those that the selection keeps, judged as they
were before, each of them narrowed. -/
theorem narrowedMembers_iff {members members' : List Node} :
    NarrowedMembers selection clauses names members members' ↔
      (∀ m ∈ members, (Clause.allHold m (Clause.remainders names clauses)).isOk) ∧
        List.Forall₂ (Narrowed selection clauses names)
          (members.filter (selection.selects (Clause.remainders names clauses))) members' := by
  induction members generalizing members' with
  | nil =>
    constructor
    · rintro ⟨⟩
      exact ⟨by simp, .nil⟩
    · rintro ⟨-, h⟩
      obtain rfl := List.forall₂_nil_left_iff.1 h
      exact .nil
  | cons m members ih =>
    constructor
    · rintro (_ | ⟨hholds, hkeeps, hm, hmembers⟩ | ⟨hholds, hkeeps, hmembers⟩)
      · obtain ⟨hok, hforall⟩ := ih.1 hmembers
        rw [List.filter_cons_of_pos (by rw [Selection.selects_eq hholds, hkeeps])]
        exact ⟨List.forall_mem_cons.2 ⟨hholds ▸ rfl, hok⟩, .cons hm hforall⟩
      · obtain ⟨hok, hforall⟩ := ih.1 hmembers
        rw [List.filter_cons_of_neg (by rwa [Selection.selects_eq hholds])]
        exact ⟨List.forall_mem_cons.2 ⟨hholds ▸ rfl, hok⟩, hforall⟩
    · rintro ⟨hok, hforall⟩
      obtain ⟨hm, hok⟩ := List.forall_mem_cons.1 hok
      obtain ⟨holds, hholds⟩ := isOk_iff.1 hm
      by_cases hkeeps : selection.keeps holds
      · rw [List.filter_cons_of_pos (by rw [Selection.selects_eq hholds, hkeeps])] at hforall
        obtain ⟨m', rest, hm, hrest, rfl⟩ := List.forall₂_cons_left_iff.1 hforall
        exact .keep hholds hkeeps hm (ih.2 ⟨hok, hrest⟩)
      · rw [List.filter_cons_of_neg (by rwa [Selection.selects_eq hholds])] at hforall
        exact .drop hholds hkeeps (ih.2 ⟨hok, hforall⟩)

namespace Dataset

variable {registry : Registry} {q : Query}

/-- **Cascading narrows exactly what the clauses lead into.**  Let the fields of all nodes
of a dataset stand under the names that they bear, at any depth, as is the case with all
nodes that come from records.  For a query with predicates, what the cascading dataset
gives are the nodes that the selection keeps, in order, each of them narrowed
(`Narrowed`):

* its fields have the same names in the same order, and values are unchanged;
* a nested node stays, narrowed in turn;
* a nested dataset that clauses lead into keeps the members that the selection
  keeps for the remainders of all these clauses, judged as they were before, and
  each member that is kept is narrowed in turn;
* everything that no clause leads into is unchanged. -/
theorem onCascade_choose_narrowed (selection : Selection) (registry : Registry) (d : Dataset)
    (hnodes : ∀ n ∈ d.nodes, n.Named) (hq : q.predicates ≠ []) {r : Dataset} :
    d.onCascade.choose selection registry q = .ok r ↔
      r.cascade = false ∧ ∃ clauses, q.compile registry = .ok clauses ∧
        (∀ n ∈ d.nodes, (Clause.allHold n clauses).isOk) ∧
          List.Forall₂ (Narrowed selection clauses [])
            (d.nodes.filter (selection.selects clauses)) r.nodes := by
  cases hclauses : q.compile registry with
  | error e => simp [choose_of_compile_error selection hclauses]
  | ok clauses =>
    have hsome : clauses.isEmpty = false := by
      rw [Query.isEmpty_of_compile hclauses]
      simpa using hq
    have hnarrow : d.onCascade.choose selection registry q =
        (narrowMembers selection clauses d.nodes).map ofNodes := by
      simp [choose_eq_select selection hclauses, select, onCascade, hsome]
    have hmembers : ∀ nodes, narrowMembers selection clauses d.nodes = .ok nodes ↔
        NarrowedMembers selection clauses [] d.nodes nodes := fun nodes =>
      ⟨fun h => narrowedMembers_of_narrowMembers hnodes (by rwa [Clause.remainders_nil]),
        fun h => by simpa using h.narrowMembers_eq⟩
    simp only [hnarrow, map_eq_ok_iff, hmembers, narrowedMembers_iff, Clause.remainders_nil,
      Except.ok.injEq, exists_eq_left']
    constructor
    · rintro ⟨nodes, h, rfl⟩
      exact ⟨rfl, h⟩
    · rintro ⟨hcascade, h⟩
      obtain ⟨nodes, cascade⟩ := r
      exact ⟨nodes, h, congrArg (mk nodes) hcascade.symm⟩

end Dataset

end

/-- The clause of the key `books__title` with the operand `a`. -/
def asksTitle : Clause :=
  ⟨⟨"books__title", "books", ["title"], .builtin (.exact .sensitive)⟩, .scalar (.string "a"), none⟩

namespace Dataset

/-- The hypotheses are satisfiable.  Of two books with the title asked for, the one
that has the genre asked for too is kept; the rest of the author is unchanged. -/
theorem onCascade_choose_narrowed_author :
    (∀ n ∈ [author [novel "x", novel "y"]], n.Named) ∧
    ([("books__title", .scalar (.string "a")), ("books__genre", .scalar (.string "x"))] :
      Entries Operand) ≠ [] ∧
    (ofNodes [author [novel "x", novel "y"]]).onCascade.choose .matching .builtin
      ⟨[("books__title", .scalar (.string "a")), ("books__genre", .scalar (.string "x"))]⟩ =
        .ok (ofNodes [author [novel "x"]]) := by
  have hnovel : ∀ names genre,
      Narrowed .matching [asksTitle, asksGenre] names (novel genre) (novel genre) :=
    fun _ _ => .ofFields (.cons (.scalar _) (.cons (.scalar _) .nil))
  have hbooks : NarrowedMembers .matching [asksTitle, asksGenre] ["books"]
      [novel "x", novel "y"] [novel "x"] := by
    have hkept : Clause.allHold (novel "x")
        (Clause.remainders ["books"] [asksTitle, asksGenre]) = .ok true := by decide +kernel
    have hdropped : Clause.allHold (novel "y")
        (Clause.remainders ["books"] [asksTitle, asksGenre]) = .ok false := by decide +kernel
    exact .keep hkept rfl (hnovel _ _) (.drop hdropped Bool.false_ne_true .nil)
  have hauthor : Narrowed .matching [asksTitle, asksGenre] [] (author [novel "x", novel "y"])
      (author [novel "x"]) :=
    .ofFields (.cons (.scalar _) (.cons (.dataset (List.cons_ne_nil _ _) hbooks) .nil))
  have hholds : Clause.allHold (author [novel "x", novel "y"])
      (Clause.remainders [] [asksTitle, asksGenre]) = .ok true := by decide +kernel
  have hnodes := narrowedMembers_iff.1 (.keep hholds rfl hauthor .nil)
  rw [Clause.remainders_nil] at hnodes
  have hnamed : ∀ n ∈ [author [novel "x", novel "y"]], n.Named :=
    List.forall_mem_singleton.2 (indexed_author (by simp [indexed_novel])).named
  exact ⟨hnamed, List.cons_ne_nil _ _, (onCascade_choose_narrowed .matching .builtin _ hnamed
    (List.cons_ne_nil _ _)).2 ⟨rfl, [asksTitle, asksGenre], rfl, hnodes⟩⟩

end Dataset
end RecordQuery
