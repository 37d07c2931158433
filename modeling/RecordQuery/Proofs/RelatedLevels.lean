/-
# Related nodes are gathered level by level

The segments of a dotted name lead from one list of nodes to the next: the nodes of a level
are replaced by all those that they hold in a field (`relatedNodes`).  A field holds one node
or a dataset of nodes, and of what follows nothing depends on which (`Node.gather_dataset`).

A level is left if each of its nodes holds nodes in the field, and the first one that does not
is reported.  There is none in an empty level, which the other segments are not checked
against, except for being empty (`followSegments_eq_error_iff`).  That is why no list of
names can say by itself whether they lead on; it takes the nodes (`Node.leads_iff`).

Which dotted name the segments belong to shows in errors only, so the levels can be taken one
after the other, each as the whole of a name of its own (`sameOutcome_followSegments`).
-/

import RecordQuery.Proofs.ErrorKinds
import RecordQuery.Proofs.Leading

namespace RecordQuery

/-! ### The segments of a dotted name -/

/-- What a list is split at is in none of the pieces. -/
theorem not_mem_of_mem_splitOn {α : Type} [DecidableEq α] {a : α} {xs piece : List α}
    (h : piece ∈ xs.splitOn a) : a ∉ piece := by
  induction xs generalizing piece with
  | nil => simp_all
  | cons x xs ih =>
    obtain ⟨first, rest, hsplit⟩ := List.exists_cons_of_ne_nil (List.splitOn_ne_nil a xs)
    rw [hsplit] at ih
    rw [List.splitOn_cons_eq_if_modifyHead, hsplit] at h
    split at h
    case isTrue =>
      rcases List.mem_cons.1 h with rfl | h
      · exact List.not_mem_nil
      · exact ih h
    case isFalse hx =>
      rcases List.mem_cons.1 h with rfl | h
      · have hne : a ≠ x := fun heq => hx (beq_iff_eq.2 heq.symm)
        exact List.not_mem_cons_of_ne_of_not_mem hne (ih List.mem_cons_self)
      · exact ih (List.mem_cons_of_mem _ h)

section

variable {written written' name : String} {names names' : List String} {n : Node}
  {nodes nodes' gathered : List Node} {e : LookupError}

/-- A dotted name has segments, even if it is empty. -/
theorem dottedSegments_ne_nil (name : String) : dottedSegments name ≠ [] := by
  rw [dottedSegments, ne_eq, List.map_eq_nil_iff]
  exact List.splitOn_ne_nil '.' name.toList

/-- A segment has no dots, so it is its own only segment. -/
theorem dottedSegments_of_mem (h : name ∈ dottedSegments written) :
    dottedSegments name = [name] := by
  obtain ⟨piece, hpiece, rfl⟩ := List.mem_map.1 h
  have hdot : '.' ∉ (String.ofList piece).toList := by
    rw [String.toList_ofList]
    exact not_mem_of_mem_splitOn hpiece
  rw [dottedSegments, List.splitOn_eq_singleton hdot, List.map_singleton, String.ofList_toList]

/-! ### One level -/

namespace Node

/-- The nodes that a node holds in the field `name`, as part of the dotted name `written`. -/
def gather (written name : String) (n : Node) : Except LookupError (List Node) := do
  let field ← n.get name
  if field.isRelated then return field.related
  else throw (.invalidPath written (.notRelated name))

/-- `e` tells that a node holds no nodes in the field `name`: the field is not there, or it
holds a value. -/
def Lacks (written name : String) (n : Node) (e : LookupError) : Prop :=
  (n.get? name = none ∧ e = .unknownField name n.names) ∨
    ∃ field, n.get? name = some field ∧ field.isRelated = false ∧
      e = .invalidPath written (.notRelated name)

variable {field : Field}

/-- A missing field is reported with the names that there are. -/
theorem gather_of_get?_eq_none (h : n.get? name = none) :
    n.gather written name = .error (.unknownField name n.names) := by
  rw [gather, get, h]
  rfl

/-- A field of nodes is gathered as a whole. -/
theorem gather_of_isRelated (h : n.get? name = some field) (hr : field.isRelated) :
    n.gather written name = .ok field.related := by
  rw [gather, get_eq_ok_iff.2 h]
  exact if_pos hr

/-- A field of values is reported under the dotted name. -/
theorem gather_of_not_isRelated (h : n.get? name = some field) (hr : field.isRelated = false) :
    n.gather written name = .error (.invalidPath written (.notRelated name)) := by
  rw [gather, get_eq_ok_iff.2 h]
  exact if_neg (by simp [hr])

/-- **What a node is reported for** is that it lacks a field of nodes. -/
theorem gather_eq_error_iff : n.gather written name = .error e ↔ n.Lacks written name e := by
  constructor
  · intro h
    cases hget : n.get? name with
    | none =>
      rw [gather_of_get?_eq_none hget] at h
      exact .inl ⟨hget, (Except.error.inj h).symm⟩
    | some field =>
      cases hr : field.isRelated with
      | true =>
        rw [gather_of_isRelated hget hr] at h
        cases h
      | false =>
        rw [gather_of_not_isRelated hget hr] at h
        exact .inr ⟨field, hget, hr, (Except.error.inj h).symm⟩
  · rintro (⟨hget, rfl⟩ | ⟨field, hget, hr, rfl⟩)
    · exact gather_of_get?_eq_none hget
    · exact gather_of_not_isRelated hget hr

/-- What a node lacks is a field of nodes. -/
theorem exists_lacks_iff (written : String) :
    (∃ e, n.Lacks written name e) ↔ ¬n.HasRelated name := by
  constructor
  · rintro ⟨e, ⟨hnone, -⟩ | ⟨field, hget, hr, -⟩⟩ ⟨field', hget', hr'⟩
    · rw [hnone] at hget'
      cases hget'
    · obtain rfl := Option.some.inj (hget.symm.trans hget')
      rw [hr] at hr'
      cases hr'
  · intro h
    cases hget : n.get? name with
    | none => exact ⟨_, .inl ⟨hget, rfl⟩⟩
    | some field =>
      have hr : field.isRelated = false := by simpa using fun hr => h ⟨field, hget, hr⟩
      exact ⟨_, .inr ⟨field, hget, hr, rfl⟩⟩

/-- Nothing is reported if there is a field of nodes. -/
theorem isOk_gather_iff : (n.gather written name).isOk ↔ n.HasRelated name := by
  rw [← not_iff_not, not_isOk_iff, ← exists_lacks_iff written]
  simp only [gather_eq_error_iff]

/-- **A single node counts as a dataset with one member.** -/
theorem gather_dataset (written name : String) (fields fields' : Entries Field)
    (key own : String) (child : Node) :
    (ofFields (fields ++ (key, ⟨own, .node child⟩) :: fields')).gather written name =
      (ofFields (fields ++ (key, ⟨own, .dataset [child]⟩) :: fields')).gather written name := by
  have hnames : (ofFields (fields ++ (key, ⟨own, .node child⟩) :: fields')).names =
      (ofFields (fields ++ (key, ⟨own, .dataset [child]⟩) :: fields')).names := by
    simp [names, Entries.names, Node.fields]
  rw [gather, gather, get, get, hnames, get?, get?, Node.fields, Node.fields, Entries.get?_append,
    Entries.get?_append]
  cases Entries.get? name fields with
  | some field => rfl
  | none =>
    by_cases hkey : key = name
    · rw [Entries.get?, Entries.get?, if_pos hkey, if_pos hkey]
      rfl
    · simp [Entries.get?, hkey]

end Node

/-- The nodes of a level are gathered from one after the other. -/
theorem relatedNodes_cons_eq : relatedNodes written name (n :: nodes) = (do
    let held ← n.gather written name
    let rest ← relatedNodes written name nodes
    return held ++ rest) := by
  rw [relatedNodes, Node.gather]
  cases n.get name with
  | error e => rfl
  | ok field =>
    cases hr : field.isRelated with
    | true =>
      simp only [bind, Except.bind, hr, if_true]
      rfl
    | false =>
      simp only [bind, Except.bind, hr]
      rfl

/-- **A level is gathered from each of its nodes,** and put together. -/
theorem relatedNodes_eq_mapM : relatedNodes written name nodes =
    (nodes.mapM (Node.gather written name)).map List.flatten := by
  induction nodes with
  | nil => rfl
  | cons n nodes ih =>
    rw [relatedNodes_cons_eq, ih, List.mapM_cons]
    cases n.gather written name with
    | error e => rfl
    | ok held => cases nodes.mapM (Node.gather written name) <;> rfl

/-- **A level fails as its first node without nodes in the field does.** -/
theorem relatedNodes_eq_error_iff : relatedNodes written name nodes = .error e ↔
    ∃ before m after, nodes = before ++ m :: after ∧ (∀ k ∈ before, k.HasRelated name) ∧
      m.Lacks written name e := by
  rw [relatedNodes_eq_mapM, map_eq_error_iff, mapM_eq_error_iff]
  simp only [FirstFault, Node.isOk_gather_iff, Node.gather_eq_error_iff]

/-- What is gathered from nodes depends on what is gathered from each. -/
theorem relatedNodes_congr
    (h : nodes.map (Node.gather written name) = nodes'.map (Node.gather written name)) :
    relatedNodes written name nodes = relatedNodes written name nodes' := by
  have hmapM : ∀ nodes : List Node, nodes.mapM (Node.gather written name) =
      (nodes.map (Node.gather written name)).mapM id := by
    intro nodes
    rw [List.mapM_map, Function.id_comp]
  rw [relatedNodes_eq_mapM, relatedNodes_eq_mapM, hmapM, h, ← hmapM]

/-! ### Several levels -/

/-- An empty segment is reported before the level is looked at. -/
theorem followSegments_empty (names : List String) (nodes : List Node) :
    followSegments written ("" :: names) nodes =
      .error (.invalidPath written .emptyRelatedName) := by
  rw [followSegments, if_pos rfl]
  rfl

/-- A segment leads from a level to the next. -/
theorem followSegments_cons (hname : name ≠ "") (names : List String) (nodes : List Node) :
    followSegments written (name :: names) nodes =
      relatedNodes written name nodes >>= followSegments written names := by
  rw [followSegments, if_neg hname]

/-- **Segments can be followed in two goes.** -/
theorem followSegments_append (written : String) (names names' : List String)
    (nodes : List Node) : followSegments written (names ++ names') nodes =
      followSegments written names nodes >>= followSegments written names' := by
  induction names generalizing nodes with
  | nil => rfl
  | cons name names ih =>
    by_cases hname : name = ""
    · subst hname
      rw [List.cons_append, followSegments_empty, followSegments_empty]
      rfl
    · rw [List.cons_append, followSegments_cons hname, followSegments_cons hname]
      cases relatedNodes written name nodes with
      | error e => rfl
      | ok gathered => exact ih gathered

/-- **Gathering nodes succeeds if no name is empty, and the names lead on everywhere.** -/
theorem followSegments_eq_ok_iff_leads : followSegments written names nodes = .ok gathered ↔
    "" ∉ names ∧ (∀ m ∈ nodes, m.Leads names) ∧ gathered = nodes.flatMap (Node.along names) := by
  by_cases hnames : "" ∈ names
  · refine iff_of_false (fun h => ?_) (fun h => h.1 hnames)
    obtain ⟨before, after, rfl⟩ := List.append_of_mem hnames
    rw [followSegments_append, bind_eq_ok_iff] at h
    obtain ⟨between, -, hempty⟩ := h
    rw [followSegments_empty] at hempty
    cases hempty
  · have hne : ∀ name ∈ names, name ≠ "" := fun name hname heq => hnames (heq ▸ hname)
    rw [followSegments_eq_ok_iff hne, and_iff_right hnames]

/-- `e` is what gathering nodes along names fails with, at the first level that can not be
left: the name is empty there, or it is not that of a field of nodes in all nodes of the
level, the first of which to lack it is reported. -/
def FailsAlong (written : String) (names : List String) (nodes : List Node) (e : LookupError) :
    Prop :=
  ∃ before name after, names = before ++ name :: after ∧ "" ∉ before ∧
    (∀ n ∈ nodes, n.Leads before) ∧
    ((name = "" ∧ e = .invalidPath written .emptyRelatedName) ∨
      (name ≠ "" ∧ ∃ ms m ms', nodes.flatMap (Node.along before) = ms ++ m :: ms' ∧
        (∀ k ∈ ms, k.HasRelated name) ∧ m.Lacks written name e))

/-- A level that is left is one that the levels after it begin with. -/
theorem FailsAlong.cons (hname : name ≠ "") (hnodes : ∀ n ∈ nodes, n.HasRelated name)
    (h : FailsAlong written names (nodes.flatMap (Node.relatedIn name)) e) :
    FailsAlong written (name :: names) nodes e := by
  obtain ⟨before, last, after, rfl, hbefore, hleads, hfault⟩ := h
  have hflat : nodes.flatMap (Node.along (name :: before)) =
      (nodes.flatMap (Node.relatedIn name)).flatMap (Node.along before) :=
    List.flatMap_assoc.symm
  refine ⟨name :: before, last, after, rfl,
    List.not_mem_cons_of_ne_of_not_mem (Ne.symm hname) hbefore, ?_, hflat ▸ hfault⟩
  exact fun n hn => ⟨hnodes n hn, fun child hchild =>
    hleads child (List.mem_flatMap.2 ⟨n, hn, hchild⟩)⟩

/-- **What gathering nodes fails with.** -/
theorem followSegments_eq_error_iff :
    followSegments written names nodes = .error e ↔ FailsAlong written names nodes e := by
  constructor
  · intro h
    induction names generalizing nodes with
    | nil => cases h
    | cons name names ih =>
      have hnil : ∀ n ∈ nodes, n.Leads [] := fun n hn => trivial
      by_cases hname : name = ""
      · subst hname
        rw [followSegments_empty] at h
        exact ⟨[], "", names, rfl, List.not_mem_nil, hnil, .inl ⟨rfl, (Except.error.inj h).symm⟩⟩
      · rw [followSegments_cons hname, bind_eq_error_iff] at h
        rcases h with h | ⟨gathered, hgathered, h⟩
        · refine ⟨[], name, names, rfl, List.not_mem_nil, hnil, .inr ⟨hname, ?_⟩⟩
          rw [Node.along_nil]
          exact relatedNodes_eq_error_iff.1 h
        · obtain ⟨hnodes, rfl⟩ := relatedNodes_eq_ok_iff.1 hgathered
          exact (ih h).cons hname hnodes
  · -- The names in front lead to the level, so only its own step is left to look at.
    rintro ⟨before, name, after, rfl, hbefore, hleads, hfault⟩
    have hlevel : followSegments written before nodes =
        .ok (nodes.flatMap (Node.along before)) :=
      followSegments_eq_ok_iff_leads.2 ⟨hbefore, hleads, rfl⟩
    rw [followSegments_append, hlevel]
    rcases hfault with ⟨rfl, rfl⟩ | ⟨hname, hfault⟩
    · exact followSegments_empty after (nodes.flatMap (Node.along before))
    · have hlast : followSegments written (name :: after)
          (nodes.flatMap (Node.along before)) = .error e := by
        rw [followSegments_cons hname, bind_eq_error_iff]
        exact .inl (relatedNodes_eq_error_iff.2 hfault)
      exact hlast

/-- **Names lead on if each of them is that of a field of nodes in all nodes of its level.** -/
theorem Node.leads_iff : n.Leads names ↔ ∀ before name after,
    names = before ++ name :: after → ∀ m ∈ n.along before, m.HasRelated name := by
  induction names generalizing n with
  | nil => simp [Leads]
  | cons first names ih =>
    constructor
    · rintro ⟨hfirst, hchildren⟩ before name after hnames m hm
      cases before with
      | nil =>
        obtain ⟨rfl, rfl⟩ := List.cons.inj hnames
        rw [List.mem_singleton.1 hm]
        exact hfirst
      | cons first' before =>
        obtain ⟨rfl, rfl⟩ := List.cons.inj hnames
        obtain ⟨child, hchild, hm⟩ := List.mem_flatMap.1 hm
        exact ih.1 (hchildren child hchild) before name after rfl m hm
    · intro h
      refine ⟨h [] first names rfl n (List.mem_singleton_self n), fun child hchild => ?_⟩
      refine ih.2 fun before name after hnames m hm => ?_
      exact h (first :: before) name after (congrArg (first :: ·) hnames) m
        (List.mem_flatMap.2 ⟨child, hchild, hm⟩)

/-! ### One level after the other -/

/-- Which name was written shows in errors only. -/
theorem Node.sameOutcome_gather :
    SameOutcome (n.gather written name) (n.gather written' name) := by
  cases hget : n.get? name with
  | none =>
    rw [gather_of_get?_eq_none hget, gather_of_get?_eq_none hget]
    exact .error rfl
  | some field =>
    cases hr : field.isRelated with
    | true =>
      rw [gather_of_isRelated hget hr, gather_of_isRelated hget hr]
      exact .ok _
    | false =>
      rw [gather_of_not_isRelated hget hr, gather_of_not_isRelated hget hr]
      exact .error rfl

/-- So it does for a level. -/
theorem sameOutcome_relatedNodes :
    SameOutcome (relatedNodes written name nodes) (relatedNodes written' name nodes) := by
  induction nodes with
  | nil => exact .ok []
  | cons n nodes ih =>
    rw [relatedNodes_cons_eq, relatedNodes_cons_eq]
    exact Node.sameOutcome_gather.bind fun held => ih.bind fun rest => .ok (held ++ rest)

/-- **So it does for all levels together,** and what is found is the same. -/
theorem sameOutcome_followSegments :
    SameOutcome (followSegments written names nodes) (followSegments written' names nodes) := by
  induction names generalizing nodes with
  | nil => exact .ok nodes
  | cons name names ih =>
    by_cases hname : name = ""
    · subst hname
      rw [followSegments_empty, followSegments_empty]
      exact .error rfl
    · rw [followSegments_cons hname, followSegments_cons hname]
      exact sameOutcome_relatedNodes.bind fun gathered => ih

/-- What is gathered along names does not tell lists of nodes apart that hold the same. -/
theorem followSegments_congr (hne : names ≠ [])
    (h : ∀ name, nodes.map (Node.gather written name) = nodes'.map (Node.gather written name)) :
    followSegments written names nodes = followSegments written names nodes' := by
  obtain ⟨name, names, rfl⟩ := List.exists_cons_of_ne_nil hne
  by_cases hname : name = ""
  · subst hname
    rw [followSegments_empty, followSegments_empty]
  · rw [followSegments_cons hname, followSegments_cons hname, relatedNodes_congr (h name)]

end

end RecordQuery
