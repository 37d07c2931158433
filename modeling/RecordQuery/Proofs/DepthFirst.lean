/-
# The paths of a node, each at its place

A field is at a position: the number of a field, and after it, if the way goes on into the
nodes that this field holds, the number of one of them and a position in there
(`Node.FieldAt`).  Going through a node depth first is going through its positions in
lexicographic order, so the order in which paths are listed can be said without a traversal:
of two paths the one that has the least position is listed first (`Node.inOrder_paths`).

Collecting the paths one by one, each added to those met before, comes to the same list
(`Node.collectPaths_eq_paths`).

Where a key holds there is a field, and narrowing moves no field to another chain of names.
So a key can hold only if its path is listed, and narrowing adds no path.
-/

import RecordQuery.Proofs.Addressing
import RecordQuery.Proofs.Built
import RecordQuery.Proofs.OrderedUnion
import RecordQuery.Proofs.PositionOrder

namespace RecordQuery

/-! ### Positions in a node -/

/-- `n.FieldAt position chain`: the names of a chain lead from a node to the field at a
position, through nested nodes and members of nested datasets. -/
inductive Node.FieldAt : Node → List Nat → List String → Prop where
  | here {n : Node} {i : Nat} {name : String} {field : Field} :
    n.fields[i]? = some (name, field) → Node.FieldAt n [i] [name]
  | inside {n child : Node} {i j : Nat} {position : List Nat} {name : String}
    {names : List String} {field : Field} :
    n.fields[i]? = some (name, field) → field.related[j]? = some child →
      Node.FieldAt child position names → Node.FieldAt n (i :: j :: position) (name :: names)

/-- `n.MetAt position path`: a path, written with separators, is met at a position. -/
def Node.MetAt (n : Node) (position : List Nat) (path : String) : Prop :=
  ∃ chain, n.FieldAt position chain ∧ Segments.join chain = path

namespace Node

variable {n : Node} {chain : List String}

/-- A position begins with the number of a field, and either ends there or goes on with the
number of a node in this field and a position in that node. -/
theorem fieldAt_iff {position : List Nat} : n.FieldAt position chain ↔
    ∃ i rest entry, position = i :: rest ∧ n.fields[i]? = some entry ∧
      ((rest = [] ∧ chain = [entry.1]) ∨ ∃ names, (∃ j rest' child, rest = j :: rest' ∧
        entry.2.related[j]? = some child ∧ child.FieldAt rest' names) ∧
          entry.1 :: names = chain) := by
  constructor
  · rintro (hfield | ⟨hfield, hchild, hinside⟩)
    · exact ⟨_, _, _, rfl, hfield, .inl ⟨rfl, rfl⟩⟩
    · exact ⟨_, _, _, rfl, hfield, .inr ⟨_, ⟨_, _, _, rfl, hchild, hinside⟩, rfl⟩⟩
  · rintro ⟨i, _, ⟨name, field⟩, rfl, hfield, ⟨rfl, rfl⟩ |
      ⟨names, ⟨j, rest, child, rfl, hchild, hinside⟩, rfl⟩⟩
    · exact .here hfield
    · exact .inside hfield hchild hinside

/-- **The chains of a node are in the order of positions.** -/
theorem inOrder_chains (n : Node) : InOrder n.FieldAt n.chains := by
  induction n using Node.induction with
  | step n ih =>
    obtain ⟨fields⟩ := n
    rw [chains, fieldChains_eq_flatMap]
    refine (InOrder.flatMap fun entry hentry => ?_).congr fun position chain => fieldAt_iff
    have hinside := InOrder.flatMap (ih entry.1 entry.2 hentry)
    exact (hinside.map (entry.1 :: ·)).cons (by rintro chain ⟨names, ⟨j, rest, child, ⟨⟩, -⟩, -⟩) _

/-- **The paths of a node are in the order of their least positions.** -/
theorem inOrder_paths (n : Node) :
    InOrder (fun position path => IsLeast (n.MetAt · path) position) n.paths :=
  (n.inOrder_chains.map Segments.join).firstOccurrences

/-- At every position of a chain there is a field. -/
theorem FieldAt.hasField {position : List Nat} (h : n.FieldAt position chain) :
    ∃ field, n.HasField chain field := by
  induction h with
  | here hfield => exact ⟨_, .here (List.mem_of_getElem? hfield)⟩
  | inside hfield hchild _ ih =>
    obtain ⟨found, hinside⟩ := ih
    exact ⟨found, .inside (List.mem_of_getElem? hfield) (List.mem_of_getElem? hchild) hinside⟩

/-- **The chains of a node are those that lead to a field.** -/
theorem mem_chains_iff : chain ∈ n.chains ↔ ∃ field, n.HasField chain field := by
  constructor
  · intro hchain
    obtain ⟨position, h⟩ := n.inOrder_chains.mem_iff.1 hchain
    exact h.hasField
  · rintro ⟨field, h⟩
    exact h.mem_chains

/-- **The paths are the chains that lead to a field, joined.** -/
theorem mem_paths_iff {path : String} : path ∈ n.paths ↔
    ∃ chain field, n.HasField chain field ∧ Segments.join chain = path := by
  constructor
  · intro hpath
    obtain ⟨chain, hchain, rfl⟩ := List.mem_map.1 (firstOccurrences_subset hpath)
    obtain ⟨field, h⟩ := mem_chains_iff.1 hchain
    exact ⟨chain, field, h, rfl⟩
  · rintro ⟨chain, field, h, rfl⟩
    exact h.join_mem_paths

variable [PatternEngine]

/-- A field of a narrowed node was there before, behind the same names, as long as fields bear
the names that they stand under. -/
theorem HasField.of_narrow {n' : Node} {field' : Field} {selection : Selection}
    {clauses : List Clause} (h : n'.HasField chain field') (hn : n.Named)
    (hnarrow : n.narrow selection clauses = .ok n') : ∃ field, n.HasField chain field := by
  induction h generalizing n clauses with
  | here hfield' =>
    obtain ⟨⟨name, field⟩, hfield, rfl, -⟩ :=
      exists_mem_of_forall₂ (hn.forall₂_of_narrow hnarrow) hfield'
    exact ⟨field, .here hfield⟩
  | inside hfield' hchild' _ ih =>
    obtain ⟨⟨name, field⟩, hfield, rfl, -, hcontent⟩ :=
      exists_mem_of_forall₂ (hn.forall₂_of_narrow hnarrow) hfield'
    obtain ⟨child, hchild, hnarrow⟩ := Content.exists_of_narrow hcontent hchild'
    obtain ⟨-, hchildren⟩ := hn
    obtain ⟨found, hfound⟩ := ih (hchildren _ hfield child hchild) hnarrow
    exact ⟨found, .inside hfield hchild hfound⟩

/-- **Narrowing adds no path.** -/
theorem paths_subset_of_narrow {n' : Node} {selection : Selection} {clauses : List Clause}
    (hn : n.Named) (hnarrow : n.narrow selection clauses = .ok n') : n'.paths ⊆ n.paths := by
  intro path hpath
  obtain ⟨chain, field', h, hjoin⟩ := mem_paths_iff.1 hpath
  obtain ⟨field, h⟩ := h.of_narrow hn hnarrow
  exact mem_paths_iff.2 ⟨chain, field, h, hjoin⟩

end Node

/-! ### Keys that hold -/

/-- **Where a key holds there is a field.** -/
theorem KeyPath.hasField_of_follow [PatternEngine] {path : KeyPath} {pattern : Option Pattern}
    {operand : Operand} {name : String} {rest : List String} {n : Node}
    (h : path.follow pattern operand name rest n = .ok true) :
    ∃ field, n.HasField (name :: rest) field := by
  induction rest generalizing name n with
  | nil =>
    rw [follow] at h
    obtain ⟨field, hget, -⟩ := bind_eq_ok_iff.1 h
    exact ⟨field, .here (Entries.mem_of_get? (Node.get_eq_ok_iff.1 hget))⟩
  | cons next rest ih =>
    rw [follow] at h
    obtain ⟨⟨own, content⟩, hget, h⟩ := bind_eq_ok_iff.1 h
    have hfield := Entries.mem_of_get? (Node.get_eq_ok_iff.1 hget)
    obtain ⟨child, hchild, hfollow⟩ : ∃ child ∈ content.related,
        path.follow pattern operand next rest child = .ok true := by
      cases content with
      | scalar s => cases h
      | array items => cases h
      | node child => exact ⟨child, List.mem_singleton.2 rfl, h⟩
      | dataset members =>
        obtain ⟨-, hany⟩ := anyMember_eq_ok_iff.1 h
        obtain ⟨child, hchild, hfollow⟩ := List.any_eq_true.1 hany.symm
        exact ⟨child, hchild, of_decide_eq_true hfollow⟩
    obtain ⟨found, hfound⟩ := ih hfollow
    exact ⟨found, .inside hfield hchild hfound⟩

/-- So its segments, joined, are a path of the node. -/
theorem KeyPath.join_segments_mem_paths [PatternEngine] {path : KeyPath} {operand : Operand}
    {n : Node} (h : path.resolve operand n = .ok true) : Segments.join path.segments ∈ n.paths := by
  obtain ⟨pattern, -, h⟩ := bind_eq_ok_iff.1 h
  obtain ⟨field, h⟩ := hasField_of_follow h
  exact h.join_mem_paths

/-! ### Collecting paths one by one -/

/-- Adds a path to those met before, unless it is one of them. -/
def addPath (paths : List String) (path : String) : List String :=
  if path ∈ paths then paths else paths ++ [path]

/-- Adding paths one by one is adding those that are new, each once. -/
theorem foldl_addPath (paths added : List String) :
    added.foldl addPath paths = paths ++ dropRepeats (· == ·) paths added := by
  induction added generalizing paths with
  | nil => exact (List.append_nil paths).symm
  | cons path added ih =>
    have hany : (paths.any fun met => met == path) ↔ path ∈ paths := by simp
    rw [List.foldl_cons, addPath, dropRepeats]
    simp only [hany]
    split
    · exact ih paths
    · rw [ih, List.append_assoc, List.singleton_append]

mutual

/-- Adds the paths of a node, each behind a text, to those met before. -/
def Node.collectPaths (before : String) (paths : List String) : Node → List String
  | .ofFields fields => collectFieldPaths before paths fields

/-- Adds the paths of what a field holds. -/
def Content.collectPaths (before : String) (paths : List String) : Content → List String
  | .scalar _ => paths
  | .array _ => paths
  | .node n => n.collectPaths before paths
  | .dataset members => collectMemberPaths before paths members

/-- Adds the path of each of these fields and then those of what it holds. -/
def collectFieldPaths (before : String) (paths : List String) :
    List (String × Field) → List String
  | [] => paths
  | (name, ⟨_, content⟩) :: fields =>
    collectFieldPaths before (content.collectPaths (before ++ name ++ Segments.separator)
      (addPath paths (before ++ name))) fields

/-- Adds the paths of several nodes. -/
def collectMemberPaths (before : String) (paths : List String) : List Node → List String
  | [] => paths
  | n :: nodes => collectMemberPaths before (n.collectPaths before paths) nodes

end

/-- Each node adds its paths to those of the nodes before it. -/
theorem collectMemberPaths_eq_foldl (before : String) (paths : List String) (nodes : List Node) :
    collectMemberPaths before paths nodes =
      nodes.foldl (fun paths n => n.collectPaths before paths) paths := by
  induction nodes generalizing paths with
  | nil => rfl
  | cons n nodes ih => exact ih _

/-- What a field adds is what the nodes in it add. -/
theorem Content.collectPaths_eq_foldl (before : String) (paths : List String)
    (content : Content) : content.collectPaths before paths =
      content.related.foldl (fun paths n => n.collectPaths before paths) paths := by
  cases content with
  | scalar s => rfl
  | array items => rfl
  | node n => rfl
  | dataset members => exact collectMemberPaths_eq_foldl before paths members

/-- A field adds its own path and then the paths behind it. -/
theorem collectFieldPaths_eq_foldl (before : String) (paths : List String)
    (fields : List (String × Field)) : collectFieldPaths before paths fields =
      fields.foldl (fun paths entry => entry.2.content.collectPaths (before ++ entry.1 ++
        Segments.separator) (addPath paths (before ++ entry.1))) paths := by
  induction fields generalizing paths with
  | nil => rfl
  | cons entry fields ih =>
    obtain ⟨name, own, content⟩ := entry
    exact ih _

/-- **Collecting adds the chains of a node in their order,** each joined and behind a text. -/
theorem Node.collectPaths_eq_foldl (n : Node) (before : String) (paths : List String) :
    n.collectPaths before paths =
      (n.chains.map fun chain => before ++ Segments.join chain).foldl addPath paths := by
  induction n using Node.induction generalizing before paths with
  | step n ih =>
    obtain ⟨fields⟩ := n
    rw [collectPaths, chains, collectFieldPaths_eq_foldl, fieldChains_eq_flatMap,
      List.map_flatMap, List.foldl_flatMap]
    -- Both sides go through the fields, and each field adds to whatever was met before it.
    refine List.foldl_ext _ _ _ fun paths entry hentry => ?_
    rw [List.map_cons, List.foldl_cons, Segments.join_singleton, Content.collectPaths_eq_foldl,
      List.map_map, List.map_flatMap, List.foldl_flatMap]
    refine List.foldl_ext _ _ _ fun paths child hchild => ?_
    rw [ih entry.1 entry.2 hentry child hchild]
    -- The text before a chain of the child is the text before the field, and its name.
    congr 1
    refine List.map_congr_left fun chain hchain => ?_
    obtain ⟨field, h⟩ := mem_chains_iff.1 hchain
    obtain ⟨next, names, rfl⟩ := List.exists_cons_of_ne_nil h.ne_nil
    rw [Function.comp_apply, Segments.join_cons_cons]
    simp only [String.append_assoc]

/-- **The paths of a node are what is collected from nothing.** -/
theorem Node.collectPaths_eq_paths (n : Node) : n.collectPaths "" [] = n.paths := by
  rw [collectPaths_eq_foldl, foldl_addPath, paths, firstOccurrences, List.nil_append]
  simp only [String.empty_append]

/-! ### What the paths say -/

/-- **The paths of a node are complete, exact and in order.**  This holds of every node, and
so of those that come from a record and of those that were narrowed.  Only the last part asks
that fields bear the names that they stand under, as they do in all nodes that come from records
(`Node.Built.indexed`), since narrowing makes a table of the names that fields bear.

* They are what is collected by going through the fields and what they hold, if each path is
  put together from the text before it and is added unless it was met.
* None of them is listed twice.
* A path is listed just if it is a chain of names that leads to a field, through nested nodes
  and members of nested datasets, joined by separators.
* One path is listed before another just if depth first it is met first.
* If a key holds of the node with some operand, its segments make a path of the node.
* Narrowing the node adds no path. -/
theorem Node.paths_depthFirst [PatternEngine] (n : Node) :
    n.paths = n.collectPaths "" [] ∧
    n.paths.Nodup ∧
    (∀ path, path ∈ n.paths ↔
      ∃ chain field, n.HasField chain field ∧ Segments.join chain = path) ∧
    (∀ path path', [path, path'].Sublist n.paths ↔
      ∃ i j, IsLeast {position | n.MetAt position path} i ∧
        IsLeast {position | n.MetAt position path'} j ∧ i < j) ∧
    (∀ (path : KeyPath) operand, path.resolve operand n = .ok true →
      Segments.join path.segments ∈ n.paths) ∧
    (n.Named → ∀ selection clauses n', n.narrow selection clauses = .ok n' →
      n'.paths ⊆ n.paths) := by
  have hnodup : n.paths.Nodup := (pairwise_dropRepeats (· == ·) [] _).imp fun hne heq =>
    hne (beq_iff_eq.2 heq)
  refine ⟨n.collectPaths_eq_paths.symm, hnodup, fun path => mem_paths_iff,
    fun path path' => n.inOrder_paths.pair_sublist_iff, fun path operand => ?_,
    fun hn selection clauses n' => paths_subset_of_narrow hn⟩
  exact KeyPath.join_segments_mem_paths

/-- The hypotheses are satisfiable: the key `books__genre` holds of an author who has a book
of the genre, and this author can be narrowed to the book. -/
theorem Node.paths_depthFirst_author :
    asksGenre.path.resolve asksGenre.operand (author [novel "x", novel "y"]) = .ok true ∧
    "books__genre" ∈ (author [novel "x", novel "y"]).paths ∧
    (author [novel "x", novel "y"]).narrow .matching [asksGenre] = .ok (author [novel "x"]) ∧
    (author [novel "x"]).paths ⊆ (author [novel "x", novel "y"]).paths := by
  have hresolve : asksGenre.path.resolve asksGenre.operand (author [novel "x", novel "y"]) =
      .ok true := by cbv
  have hnarrow : (author [novel "x", novel "y"]).narrow .matching [asksGenre] =
      .ok (author [novel "x"]) := by cbv
  have hnamed : (author [novel "x", novel "y"]).Named :=
    (indexed_author (by simp [indexed_novel])).named
  obtain ⟨-, -, -, -, hkeys, hnarrowed⟩ := paths_depthFirst (author [novel "x", novel "y"])
  exact ⟨hresolve, hkeys _ _ hresolve, hnarrow, hnarrowed hnamed _ _ _ hnarrow⟩

/-- The second book has its title before its genre, but the genre is met in the first. -/
example : (author [.ofContents [("genre", .scalar .null)], novel "x"]).paths =
    ["name", "books", "books__genre", "books__title"] := by decide +kernel

end RecordQuery
