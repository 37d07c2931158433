/-
# Cascading fails and succeeds as plain selection does

A cascading dataset narrows every node that it keeps, and narrowing evaluates
clauses again, on nested nodes.  None of these evaluations can fail: a clause
that was evaluated on a node has already visited all nodes of its first field, so
what remains of it can be evaluated on each of them, and so on down
(`Node.Distinct.isOk_narrow`).

Cascading is therefore plain selection followed by narrowing each node that was
kept (`narrowMembers_eq_bind`), with the same errors, the same number of nodes and
the same order.
-/

import RecordQuery.Proofs.Descent
import RecordQuery.Proofs.DistinctNames
import RecordQuery.Proofs.Partition

namespace RecordQuery

section

variable [PatternEngine] {selection : Selection} {clauses : List Clause}

/-! ### One level of narrowing -/

/-- A field narrowed by what the clauses ask of the nodes under the name that it bears. -/
def Field.narrow (selection : Selection) (clauses : List Clause) (field : Field) :
    Except LookupError Field :=
  (field.content.narrow selection (Clause.under field.name clauses)).map
    fun content => ⟨field.name, content⟩

/-- A field is narrowed by narrowing what it holds, and keeps its name. -/
theorem Field.narrow_eq_ok_iff {field field' : Field} :
    field.narrow selection clauses = .ok field' ↔ field'.name = field.name ∧
      field.content.narrow selection (Clause.under field.name clauses) = .ok field'.content := by
  obtain ⟨name', content'⟩ := field'
  rw [narrow, map_eq_ok_iff]
  constructor
  · rintro ⟨_, h, he⟩
    obtain ⟨rfl, rfl⟩ := Field.mk.inj he
    exact ⟨rfl, h⟩
  · rintro ⟨hname, h⟩
    exact ⟨content', h, congrArg (Field.mk · content') hname.symm⟩

/-- The fields of a node are narrowed one by one, each under the name that it bears. -/
theorem narrowFields_eq_mapM (selection : Selection) (clauses : List Clause)
    (fields : List (String × Field)) :
    narrowFields selection clauses fields = fields.mapM fun entry =>
      (entry.2.narrow selection clauses).map (entry.2.name, ·) := by
  induction fields with
  | nil => rfl
  | cons entry fields ih =>
    obtain ⟨key, name, content⟩ := entry
    rw [narrowFields, List.mapM_cons, ← ih, Field.narrow]
    cases content.narrow selection (Clause.under name clauses) <;> rfl

/-- No clauses, nothing narrowed. -/
theorem Content.narrow_nil (content : Content) : content.narrow selection [] = .ok content := by
  cases content <;> rfl

/-- Clauses that do not go on below a node ask nothing of the nodes in its fields. -/
theorem Clause.under_eq_nil (h : ¬(clauses.any fun c => c.descend?.isSome)) (name : String) :
    under name clauses = [] := by
  refine List.filterMap_eq_nil_iff.2 fun c hc => ?_
  have hnone : c.descend? = none := Option.not_isSome_iff_eq_none.1 fun hsome =>
    h (List.any_eq_true.2 ⟨c, hc, hsome⟩)
  rw [hnone, ite_self]

/-- Fields that stand under their own names stay as they are if what they hold does. -/
theorem narrowFields_eq_self {fields : List (String × Field)}
    (hnames : ∀ entry ∈ fields, entry.2.name = entry.1)
    (h : ∀ entry ∈ fields, entry.2.content.narrow selection
      (Clause.under entry.1 clauses) = .ok entry.2.content) :
    narrowFields selection clauses fields = .ok fields := by
  rw [narrowFields_eq_mapM, mapM_eq_ok_iff, List.forall₂_same]
  rintro ⟨key, field⟩ hentry
  obtain rfl : field.name = key := hnames _ hentry
  exact map_eq_ok_iff.2 ⟨field, Field.narrow_eq_ok_iff.2 ⟨rfl, h _ hentry⟩, rfl⟩

/-- A node whose fields stand under their own names is narrowed by narrowing its fields. -/
theorem Node.narrow_eq_map {n : Node} (hnames : ∀ entry ∈ n.fields, entry.2.name = entry.1) :
    n.narrow selection clauses = (narrowFields selection clauses n.fields).map .ofFields := by
  obtain ⟨fields⟩ := n
  by_cases hdescend : clauses.any fun c => c.descend?.isSome
  · rw [narrow, if_pos hdescend, Node.fields]
    cases narrowFields selection clauses fields <;> rfl
  · have hself : narrowFields selection clauses fields = .ok fields :=
      narrowFields_eq_self hnames fun entry _ => by
        rw [Clause.under_eq_nil hdescend, Content.narrow_nil]
    rw [narrow, if_neg hdescend, Node.fields, hself]
    rfl

/-- A node whose fields stand under their own names stays as it is if what they hold does. -/
theorem Node.narrow_eq_self {n : Node} (hnames : ∀ entry ∈ n.fields, entry.2.name = entry.1)
    (h : ∀ entry ∈ n.fields, entry.2.content.narrow selection
      (Clause.under entry.1 clauses) = .ok entry.2.content) :
    n.narrow selection clauses = .ok n := by
  obtain ⟨fields⟩ := n
  have hself : narrowFields selection clauses fields = .ok fields := narrowFields_eq_self hnames h
  rw [narrow_eq_map hnames, Node.fields, hself]
  rfl

/-- Without clauses a node stays as it is. -/
theorem Node.narrow_nil (n : Node) : n.narrow selection [] = .ok n := by
  obtain ⟨fields⟩ := n
  rfl

/-- Clauses narrow a nested node and never drop it. -/
theorem Content.narrow_node (n : Node) :
    (Content.node n).narrow selection clauses = (n.narrow selection clauses).map .node := by
  cases clauses with
  | nil => rw [narrow_nil, Node.narrow_nil]; rfl
  | cons c clauses =>
    rw [narrow]
    cases n.narrow selection (c :: clauses) <;> rfl

/-- Clauses narrow a nested dataset to some of its members. -/
theorem Content.narrow_dataset (h : clauses ≠ []) (members : List Node) :
    (Content.dataset members).narrow selection clauses =
      (narrowMembers selection clauses members).map .dataset := by
  obtain ⟨c, clauses, rfl⟩ := List.exists_cons_of_ne_nil h
  rw [narrow]
  cases narrowMembers selection (c :: clauses) members <;> rfl

section

variable {n : Node} {holds : Bool} (h : Clause.allHold n clauses = .ok holds) (nodes : List Node)
include h

/-- A member that the selection keeps is narrowed before the others are looked at. -/
theorem narrowMembers_cons_of_keeps (hkeeps : selection.keeps holds) :
    narrowMembers selection clauses (n :: nodes) = (do
      let n ← n.narrow selection clauses
      let nodes ← narrowMembers selection clauses nodes
      return n :: nodes) := by
  rw [narrowMembers, h]
  exact if_pos hkeeps

/-- A member that the selection drops is not narrowed. -/
theorem narrowMembers_cons_of_not_keeps (hkeeps : ¬selection.keeps holds) :
    narrowMembers selection clauses (n :: nodes) = narrowMembers selection clauses nodes := by
  rw [narrowMembers, h]
  exact if_neg hkeeps

end

/-! ### Narrowing does not fail -/

/-- **Where narrowing can not fail, narrowing while selecting is selecting first and
narrowing what is kept.** -/
theorem narrowMembers_eq_bind {nodes : List Node}
    (h : ∀ n ∈ nodes, (Clause.allHold n clauses).isOk → (n.narrow selection clauses).isOk) :
    narrowMembers selection clauses nodes =
      selectNodes selection clauses nodes >>= (·.mapM (Node.narrow selection clauses)) := by
  induction nodes with
  | nil => rfl
  | cons n nodes ih =>
    have ih := ih fun m hm => h m (List.mem_cons_of_mem _ hm)
    rw [selectNodes]
    cases hn : Clause.allHold n clauses with
    | error e =>
      rw [narrowMembers, hn]
      rfl
    | ok holds =>
      obtain ⟨n', hn'⟩ := isOk_iff.1 (h n List.mem_cons_self (hn ▸ rfl))
      by_cases hk : selection.keeps holds
      · rw [narrowMembers_cons_of_keeps hn nodes hk, ih]
        cases hs : selectNodes selection clauses nodes <;>
          simp [bind, Except.bind, pure, Except.pure, hk, hn', List.mapM_cons]
      · rw [narrowMembers_cons_of_not_keeps hn nodes hk, ih]
        cases hs : selectNodes selection clauses nodes <;>
          simp [bind, Except.bind, pure, Except.pure, hk]

/-- Members can be narrowed if each of them can be tested and those that are kept can be
narrowed, and those are what is left. -/
theorem narrowMembers_eq_ok_iff {members members' : List Node} :
    narrowMembers selection clauses members = .ok members' ↔
      (∀ m ∈ members, (Clause.allHold m clauses).isOk) ∧
        List.Forall₂ (fun m m' => m.narrow selection clauses = .ok m')
          (members.filter (selection.selects clauses)) members' := by
  induction members generalizing members' with
  | nil =>
    rw [narrowMembers, Except.ok.injEq, List.filter_nil, List.forall₂_nil_left_iff, eq_comm]
    simp
  | cons m members ih =>
    cases hm : Clause.allHold m clauses with
    | error e => simp [narrowMembers, hm, bind, Except.bind, Except.toBool]
    | ok holds =>
      have hok : (Clause.allHold m clauses).isOk := hm ▸ rfl
      by_cases hkeeps : selection.keeps holds
      · rw [narrowMembers_cons_of_keeps hm members hkeeps, List.filter_cons_of_pos
          (by rw [Selection.selects_eq hm, hkeeps]), List.forall_mem_cons,
          and_iff_right hok, List.forall₂_cons_left_iff]
        constructor
        · intro h
          obtain ⟨m', hm', h⟩ := bind_eq_ok_iff.1 h
          obtain ⟨rest, hrest, h⟩ := bind_eq_ok_iff.1 h
          obtain ⟨htested, hforall⟩ := ih.1 hrest
          exact ⟨htested, m', rest, hm', hforall, (Except.ok.inj h).symm⟩
        · rintro ⟨htested, m', rest, hm', hforall, rfl⟩
          rw [hm', ih.2 ⟨htested, hforall⟩]
          rfl
      · rw [narrowMembers_cons_of_not_keeps hm members hkeeps, List.filter_cons_of_neg
          (by rwa [Selection.selects_eq hm]), List.forall_mem_cons, and_iff_right hok, ih]

/-- Narrowing members succeeds where each can be tested and narrowed. -/
theorem isOk_narrowMembers {nodes : List Node}
    (h : ∀ n ∈ nodes, (Clause.allHold n clauses).isOk ∧ (n.narrow selection clauses).isOk) :
    (narrowMembers selection clauses nodes).isOk := by
  have hkept : selectNodes selection clauses nodes =
      .ok (nodes.filter (selection.selects clauses)) :=
    selectNodes_eq_ok_iff.2 ⟨fun n hn => (h n hn).1, rfl⟩
  rw [narrowMembers_eq_bind fun n hn _ => (h n hn).2, hkept]
  exact isOk_mapM_iff.2 fun n hn => (h n (List.mem_of_mem_filter hn)).2

/-- What a field holds can be narrowed where each of its nodes can be tested and narrowed. -/
theorem Content.isOk_narrow {content : Content}
    (h : ∀ child ∈ content.related,
      (Clause.allHold child clauses).isOk ∧ (child.narrow selection clauses).isOk) :
    (content.narrow selection clauses).isOk := by
  by_cases hclauses : clauses = []
  · rw [hclauses, narrow_nil]
    rfl
  · cases content with
    | scalar s => rfl
    | array items => rfl
    | node child =>
      rw [narrow_node, isOk_map]
      exact (h child (List.mem_singleton.2 rfl)).2
    | dataset members =>
      rw [narrow_dataset hclauses, isOk_map]
      exact isOk_narrowMembers h

/-- **Narrowing can not fail where selection succeeded.**  If all clauses can be
evaluated on an indexed node, the node can be narrowed by them.  The induction is on the
nodes nested in it; the index makes sure that narrowing goes to the fields that the
clauses were evaluated on. -/
theorem Node.Indexed.isOk_narrow {n : Node} (hn : n.Indexed)
    (hok : ∀ c ∈ clauses, (c.holds n).isOk) : (n.narrow selection clauses).isOk := by
  induction n using Node.induction generalizing clauses with
  | step n ih =>
    obtain ⟨hnames, -⟩ := hn.named
    rw [narrow_eq_map hnames, isOk_map, narrowFields_eq_mapM, isOk_mapM_iff]
    rintro ⟨name, field⟩ hentry
    have hget : n.get? name = some field := hn.distinct.get?_of_mem hentry
    obtain rfl : field.name = name := hn.named.name_eq hget
    have hbelow : ∀ child ∈ field.related, ∀ c ∈ Clause.under field.name clauses,
        (c.holds child).isOk := fun child hchild c hc =>
      Clause.isOk_holds_of_mem_under hok hget hchild hc
    rw [isOk_map, Field.narrow, isOk_map]
    exact Content.isOk_narrow fun child hchild =>
      ⟨Clause.isOk_allHold_iff.2 (hbelow child hchild),
        ih field.name field hentry child hchild (hn.of_related hget hchild)
          (hbelow child hchild)⟩

namespace Dataset

variable {registry : Registry} {q : Query} {d plain : Dataset}

/-- A node that plain selection keeps is a node of the dataset on which every clause
can be evaluated. -/
theorem mem_and_isOk_of_select (hd : d.cascade = false)
    (h : d.select selection clauses = .ok plain) {n : Node} (hn : n ∈ plain.nodes) :
    n ∈ d.nodes ∧ ∀ c ∈ clauses, (c.holds n).isOk := by
  by_cases hclauses : clauses = []
  · subst hclauses
    obtain rfl : ofNodes d.nodes = plain := Except.ok.inj h
    exact ⟨hn, fun c hc => absurd hc List.not_mem_nil⟩
  · rw [select_eq_selectNodes selection hd hclauses] at h
    obtain ⟨kept, hkept, rfl⟩ := map_eq_ok_iff.1 h
    obtain ⟨hok, rfl⟩ := selectNodes_eq_ok_iff.1 hkept
    have hmem : n ∈ d.nodes := List.mem_of_mem_filter hn
    exact ⟨hmem, Clause.isOk_allHold_iff.1 (hok n hmem)⟩

/-- **Cascading selection is plain selection, followed by narrowing each node.** -/
theorem onCascade_select_eq_bind (selection : Selection) (clauses : List Clause)
    (hd : d.cascade = false) (hnodes : ∀ n ∈ d.nodes, n.Indexed) :
    d.onCascade.select selection clauses = (do
      let plain ← d.select selection clauses
      (plain.nodes.mapM (Node.narrow selection clauses)).map ofNodes) := by
  by_cases hclauses : clauses = []
  · subst hclauses
    have hmap : d.nodes.mapM (Node.narrow selection []) = .ok d.nodes :=
      mapM_eq_ok_iff.2 (List.forall₂_same.2 fun n _ => Node.narrow_nil n)
    exact (congrArg (Except.map ofNodes) hmap).symm
  · have hnarrow : ∀ n ∈ d.nodes, (Clause.allHold n clauses).isOk →
        (n.narrow selection clauses).isOk := fun n hn hok =>
      (hnodes n hn).isOk_narrow (Clause.isOk_allHold_iff.1 hok)
    have hcascade : d.onCascade.select selection clauses =
        (narrowMembers selection clauses d.nodes).map ofNodes := by
      simp [select, onCascade, hclauses]
    rw [hcascade, narrowMembers_eq_bind hnarrow, select_eq_selectNodes selection hd hclauses]
    cases selectNodes selection clauses d.nodes <;> rfl

/-- **Cascading fails and succeeds as plain selection does.**  Let the fields of all
nodes of a dataset be indexed by their names, at any depth, as is the case with all
nodes that come from records.  Then filtering, or excluding, fails on the cascading dataset with
exactly the errors with which it fails on the plain one, and what it gives
otherwise is the plain result with each node narrowed, in the same order. -/
theorem onCascade_choose (selection : Selection) (registry : Registry) (q : Query)
    (hd : d.cascade = false) (hnodes : ∀ n ∈ d.nodes, n.Indexed) :
    (∀ e, d.onCascade.choose selection registry q = .error e ↔
      d.choose selection registry q = .error e) ∧
    ∀ r, d.onCascade.choose selection registry q = .ok r ↔
      r.cascade = false ∧ ∃ clauses plain, q.compile registry = .ok clauses ∧
        d.choose selection registry q = .ok plain ∧
          List.Forall₂ (fun n n' => n.narrow selection clauses = .ok n') plain.nodes r.nodes := by
  cases hclauses : q.compile registry with
  | error e' => simp [choose_of_compile_error selection hclauses]
  | ok clauses =>
    rw [choose_eq_select selection hclauses, choose_eq_select selection hclauses,
      onCascade_select_eq_bind selection clauses hd hnodes]
    constructor
    · intro e
      rw [bind_eq_error_iff, or_iff_left]
      rintro ⟨plain, hplain, h⟩
      have hok : (plain.nodes.mapM (Node.narrow selection clauses)).isOk := by
        refine isOk_mapM_iff.2 fun n hn => ?_
        obtain ⟨hmem, hholds⟩ := mem_and_isOk_of_select hd hplain hn
        exact (hnodes n hmem).isOk_narrow hholds
      rw [map_eq_error_iff.1 h] at hok
      exact absurd hok (by simp [Except.toBool])
    · intro r
      simp only [bind_eq_ok_iff, map_eq_ok_iff, mapM_eq_ok_iff, Except.ok.injEq]
      constructor
      · rintro ⟨plain, hplain, nodes, hforall, rfl⟩
        exact ⟨rfl, clauses, plain, rfl, hplain, hforall⟩
      · rintro ⟨hcascade, _, plain, rfl, hplain, hforall⟩
        obtain ⟨nodes, cascade⟩ := r
        exact ⟨plain, hplain, nodes, hforall, congrArg (mk nodes) hcascade.symm⟩

end Dataset

end

/-- A book of some genre. -/
def novel (genre : String) : Node :=
  .ofContents [("title", .scalar (.string "a")), ("genre", .scalar (.string genre))]

/-- An author of some books. -/
def author (books : List Node) : Node :=
  .ofContents [("name", .scalar (.string "n")), ("books", .dataset books)]

/-- The fields of a book are indexed by their names. -/
theorem indexed_novel (genre : String) : (novel genre).Indexed :=
  .ofContents (show ["title", "genre"].Nodup by decide) (by simp [Content.related])

/-- So are those of an author, if those of the books are. -/
theorem indexed_author {books : List Node} (h : ∀ book ∈ books, book.Indexed) :
    (author books).Indexed :=
  .ofContents (show ["name", "books"].Nodup by decide) (by simpa [Content.related] using h)

/-- The clause of the key `books__genre` with the operand `x`. -/
def asksGenre : Clause :=
  ⟨⟨"books__genre", "books", ["genre"], .builtin (.exact .sensitive)⟩, .scalar (.string "x"), none⟩

namespace Dataset

/-- The hypotheses are satisfiable.  A name that no book has is reported by the
cascading dataset too, and when it selects an author by the genre of one book, it
drops the other one. -/
theorem onCascade_choose_author :
    (ofNodes [author [novel "x", novel "y"]]).cascade = false ∧
    (∀ n ∈ [author [novel "x", novel "y"]], n.Indexed) ∧
    (ofNodes [author [novel "x", novel "y"]]).onCascade.choose .others .builtin
      ⟨[("books__year", .scalar (.string "a"))]⟩ =
        .error (.unknownField "year" ["title", "genre"]) ∧
    (ofNodes [author [novel "x", novel "y"]]).onCascade.choose .matching .builtin
      ⟨[("books__genre", .scalar (.string "x"))]⟩ = .ok (ofNodes [author [novel "x"]]) := by
  have hd : (ofNodes [author [novel "x", novel "y"]]).cascade = false := rfl
  have hnodes : ∀ n ∈ [author [novel "x", novel "y"]], n.Indexed :=
    List.forall_mem_singleton.2 (indexed_author (by simp [indexed_novel]))
  obtain ⟨herror, -⟩ := onCascade_choose .others .builtin
    ⟨[("books__year", .scalar (.string "a"))]⟩ hd hnodes
  obtain ⟨-, hok⟩ := onCascade_choose .matching .builtin
    ⟨[("books__genre", .scalar (.string "x"))]⟩ hd hnodes
  refine ⟨hd, hnodes, (herror _).2 rfl, (hok _).2 ⟨rfl, [asksGenre], ?_⟩⟩
  exact ⟨ofNodes [author [novel "x", novel "y"]], rfl, by cbv, .cons (by cbv) .nil⟩

end Dataset
end RecordQuery
