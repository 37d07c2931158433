/-
# Which fields a key can name

The paths of a node are meant to be continued by a lookup and used as keys.  A path
read back in this way is the chain of names that it was written from just if every
name on the chain is neither empty nor ends in `_` (`KeyPath.parse_path_iff`).  Records
are only required to have no name that holds the separator, so there are fields that no
key can name (`KeyPath.parse_path_unspellable`).

A key that does name a scalar, through nested nodes only, and has the lookup for
equality holds for that scalar.
-/

import RecordQuery.Proofs.Meaning
import RecordQuery.Proofs.Spelling
import RecordQuery.Record.Paths

namespace RecordQuery

/-! ### Chains of names -/

/-- `n.HasField chain field`: the names of a chain lead from a node to a field, through
nested nodes and members of nested datasets. -/
inductive Node.HasField : Node → List String → Field → Prop where
  | here {n : Node} {name : String} {field : Field} : (name, field) ∈ n.fields →
    Node.HasField n [name] field
  | inside {n child : Node} {name : String} {names : List String} {field found : Field} :
    (name, field) ∈ n.fields → child ∈ field.related → Node.HasField child names found →
      Node.HasField n (name :: names) found

/-- `n.HasScalar chain s`: the names of a chain lead from a node to the scalar `s`, through
nested nodes only. -/
inductive Node.HasScalar : Node → List String → Scalar → Prop where
  | here {n : Node} {name own : String} {s : Scalar} : (name, ⟨own, .scalar s⟩) ∈ n.fields →
    Node.HasScalar n [name] s
  | inside {n child : Node} {name own : String} {names : List String} {s : Scalar} :
    (name, ⟨own, .node child⟩) ∈ n.fields → Node.HasScalar child names s →
      Node.HasScalar n (name :: names) s

/-- The chains of several nodes are those of each, one after the other. -/
theorem memberChains_eq_flatMap (nodes : List Node) :
    memberChains nodes = nodes.flatMap Node.chains := by
  induction nodes with
  | nil => rfl
  | cons n nodes ih => rw [memberChains, ih, List.flatMap_cons]

/-- The chains that go on from a field are those of the nodes in it. -/
theorem Content.chains_eq_flatMap (content : Content) :
    content.chains = content.related.flatMap Node.chains := by
  cases content with
  | scalar s => rfl
  | array items => rfl
  | node n => simp [chains, related]
  | dataset members => exact memberChains_eq_flatMap members

/-- A field gives the chain of its name, and the chains of its nodes behind this name. -/
theorem fieldChains_eq_flatMap (fields : List (String × Field)) :
    fieldChains fields = fields.flatMap fun entry =>
      [entry.1] :: (entry.2.related.flatMap Node.chains).map (entry.1 :: ·) := by
  induction fields with
  | nil => rfl
  | cons entry fields ih =>
    obtain ⟨name, own, content⟩ := entry
    rw [fieldChains, ih, List.flatMap_cons, List.cons_append, Content.chains_eq_flatMap]
    rfl

/-- **Every chain that leads to a field is listed.** -/
theorem Node.HasField.mem_chains {n : Node} {chain : List String} {field : Field}
    (h : n.HasField chain field) : chain ∈ n.chains := by
  induction h with
  | @here n name field hfield =>
    obtain ⟨fields⟩ := n
    rw [Node.chains, fieldChains_eq_flatMap]
    exact List.mem_flatMap.2 ⟨_, hfield, List.mem_cons_self⟩
  | @inside n child name names field found hfield hchild _ ih =>
    obtain ⟨fields⟩ := n
    rw [Node.chains, fieldChains_eq_flatMap]
    refine List.mem_flatMap.2 ⟨_, hfield, List.mem_cons_of_mem _ (List.mem_map_of_mem ?_)⟩
    exact List.mem_flatMap.2 ⟨child, hchild, ih⟩

/-- What was not seen before is kept somewhere. -/
theorem mem_dropRepeats {α : Type} [BEq α] [LawfulBEq α] {a : α} {seen as : List α}
    (ha : a ∈ as) (hseen : a ∉ seen) : a ∈ dropRepeats (· == ·) seen as := by
  induction as generalizing seen with
  | nil => exact absurd ha List.not_mem_nil
  | cons b as ih =>
    have hany : (seen.any fun c => c == b) ↔ b ∈ seen := by simp
    rw [dropRepeats]
    split
    · rename_i hrepeat
      rcases List.mem_cons.1 ha with rfl | ha
      · exact absurd (hany.1 hrepeat) hseen
      · exact ih ha hseen
    · rcases List.mem_cons.1 ha with rfl | ha
      · exact List.mem_cons_self
      · by_cases hab : a = b
        · exact hab ▸ List.mem_cons_self
        · exact List.mem_cons_of_mem _ (ih ha (by simp [hseen, hab]))

/-- **Every chain that leads to a field is a path of the node.** -/
theorem Node.HasField.join_mem_paths {n : Node} {chain : List String} {field : Field}
    (h : n.HasField chain field) : Segments.join chain ∈ n.paths :=
  mem_dropRepeats (List.mem_map_of_mem h.mem_chains) List.not_mem_nil

/-- The names on a chain of a well-formed node are without the separator. -/
theorem Node.HasField.unsplit {n : Node} {chain : List String} {field : Field} {depth : Nat}
    (h : n.HasField chain field) (hn : n.WellFormed depth) :
    ∀ name ∈ chain, Segments.isSplit name = false := by
  induction h generalizing depth with
  | here hfield =>
    obtain ⟨hfields, -⟩ := hn
    exact List.forall_mem_singleton.2 (hfields _ hfield).unsplit
  | inside hfield hchild _ ih =>
    obtain ⟨hfields, hchildren⟩ := hn
    exact List.forall_mem_cons.2 ⟨(hfields _ hfield).unsplit, ih (hchildren _ hfield _ hchild)⟩

/-- A chain has names. -/
theorem Node.HasField.ne_nil {n : Node} {chain : List String} {field : Field}
    (h : n.HasField chain field) : chain ≠ [] := by
  cases h <;> exact List.cons_ne_nil _ _

/-- A chain to a scalar is a chain to a field. -/
theorem Node.HasScalar.hasField {n : Node} {chain : List String} {s : Scalar}
    (h : n.HasScalar chain s) : ∃ own, n.HasField chain ⟨own, .scalar s⟩ := by
  induction h with
  | here hfield => exact ⟨_, .here hfield⟩
  | inside hfield _ ih =>
    obtain ⟨own, hfound⟩ := ih
    exact ⟨own, .inside hfield (List.mem_singleton.2 rfl) hfound⟩

/-- What a chain of a well-formed node leads to is as records hold it. -/
theorem Node.HasField.isStored {n : Node} {chain : List String} {field : Field} {depth : Nat}
    (h : n.HasField chain field) (hn : n.WellFormed depth) : field.content.IsStored := by
  induction h generalizing depth with
  | here hfield =>
    obtain ⟨hfields, -⟩ := hn
    exact (hfields _ hfield).stored
  | inside hfield hchild _ ih =>
    obtain ⟨-, hchildren⟩ := hn
    exact ih (hchildren _ hfield _ hchild)

/-! ### Keys that name a field and a lookup -/

/-- Every operator is registered under its name. -/
theorem Registry.builtin_get?_name (op : Op) : builtin.get? op.name = some (.builtin op) := by
  rcases op with ⟨_ | _⟩ | ⟨_ | _⟩ | ⟨_ | _⟩ | ⟨_ | _⟩ | _ | ⟨_ | _ | _ | _⟩ | _ | _ |
    ⟨_ | _⟩ | _ | _ | _ <;> rfl

/-- No operator is left out. -/
theorem Op.mem_all (op : Op) : op ∈ all := List.mem_of_find?_eq_some (ofName?_name op)

/-- The names of operators hold no separator. -/
theorem Segments.split_name (op : Op) : split op.name = [op.name] := by
  have hall : ∀ op ∈ Op.all, split op.name = [op.name] := by decide +kernel
  exact hall op op.mem_all

namespace KeyPath

variable {chain : List String} {op : Op} {path : KeyPath}

/-- **A chain of spellable names followed by a lookup is parsed as written.** -/
theorem parse_of_spellable (hne : chain ≠ []) (h : ∀ name ∈ chain, Segments.Spellable name)
    (op : Op) : ∃ path, parse .builtin (Segments.join chain ++ Segments.separator ++ op.name) =
      .ok path ∧ path.segments = chain ∧ path.lookup = .builtin op := by
  obtain ⟨head, rest, rfl⟩ := List.exists_cons_of_ne_nil hne
  refine ⟨⟨_, head, rest, .builtin op⟩, parse_eq_ok_iff.2 ⟨rfl, ?_, fun name hname =>
    (h name hname).ne_empty⟩, rfl, rfl⟩
  rw [← Segments.join_append_singleton hne, Segments.split_join h, Segments.split_name,
    lookupOf_append _ (List.cons_ne_nil _ _), lookupOf, List.getLast?_singleton, Option.bind_some,
    Registry.builtin_get?_name, List.dropLast_singleton, List.append_nil]
  rfl

/-- **A chain that is parsed as written has only spellable names,** if none of them
holds the separator. -/
theorem spellable_of_parse
    (hunsplit : ∀ name ∈ chain, Segments.isSplit name = false)
    (h : parse .builtin (Segments.join chain ++ Segments.separator ++ op.name) = .ok path)
    (hsegments : path.segments = chain) : ∀ name ∈ chain, Segments.Spellable name := by
  obtain ⟨-, hlookup, hnonempty⟩ := parse_eq_ok_iff.1 h
  rw [hsegments] at hlookup hnonempty
  rw [lookupOf] at hlookup
  split at hlookup
  · obtain ⟨hdropLast, -⟩ := Prod.mk.inj hlookup
    intro name hname
    refine ⟨hnonempty name hname, hunsplit name hname, ?_⟩
    rw [← hdropLast] at hname
    exact Segments.getLast?_ne_of_mem_dropLast_split hname
  · -- All of the key would be the chain, but the key is longer.
    obtain ⟨hsplit, -⟩ := Prod.mk.inj hlookup
    have hlength := congrArg String.length (Segments.join_split
      (Segments.join chain ++ Segments.separator ++ op.name))
    rw [hsplit, String.length_append, String.length_append, Segments.length_separator] at hlength
    omega

/-- A path through nested nodes to a scalar applies its lookup there. -/
theorem follow_of_hasScalar [PatternEngine] {n : Node} {s : Scalar} (hn : n.Distinct)
    (h : n.HasScalar chain s) (path : KeyPath) (pattern : Option Pattern) (operand : Operand)
    {head : String} {rest : List String} (hchain : chain = head :: rest) :
    path.follow pattern operand head rest n =
      path.lookup.applyWith pattern (.scalar s) operand := by
  induction h generalizing head rest with
  | here hfield =>
    obtain ⟨rfl, rfl⟩ := List.cons.inj hchain
    rw [follow, Node.get_eq_ok_iff.2 (hn.get?_of_mem hfield)]
    rfl
  | inside hfield hscalar ih =>
    obtain ⟨rfl, rfl⟩ := List.cons.inj hchain
    obtain ⟨own, hfound⟩ := hscalar.hasField
    obtain ⟨next, rest, rfl⟩ := List.exists_cons_of_ne_nil hfound.ne_nil
    have hget := hn.get?_of_mem hfield
    obtain ⟨-, hchildren⟩ := hn
    rw [follow_cons hget rfl, Field.related, Content.related, anyMember_singleton]
    exact ih (hchildren _ hfield _ (List.mem_singleton.2 rfl)) rfl

/-- **A path names its field just if every name on it is spellable.**  Let a node be
classified from a record, and let a chain of names lead to one of its fields, through
nested nodes and members of nested datasets.

* The chain, joined, is one of the paths of the node.
* For every built-in lookup, this path followed by the lookup is parsed as the chain
  and the lookup just if no name on the chain is empty or ends in `_`.
* If so, and if the chain leads through nested nodes only to a scalar, then the path
  followed by the lookup for equality holds for that scalar. -/
theorem parse_path_iff [PatternEngine] {record : Json} {n : Node} {field : Field}
    (hrecord : record.Distinct) (h : Node.ofRecord record = .ok n)
    (hchain : n.HasField chain field) :
    Segments.join chain ∈ n.paths ∧
    (∀ op : Op, (∃ path, parse .builtin (Segments.join chain ++ Segments.separator ++ op.name) =
        .ok path ∧ path.segments = chain ∧ path.lookup = .builtin op) ↔
      ∀ name ∈ chain, name ≠ "" ∧ name.toList.getLast? ≠ some '_') ∧
    ∀ s, n.HasScalar chain s → (∀ name ∈ chain, name ≠ "" ∧ name.toList.getLast? ≠ some '_') →
      ∃ path, parse .builtin
        (Segments.join chain ++ Segments.separator ++ (Op.exact .sensitive).name) = .ok path ∧
          path.resolve (.scalar s) n = .ok true := by
  have hwell := Node.wellFormed_of_ofRecord h
  have hunsplit := hchain.unsplit hwell
  have hspellable : (∀ name ∈ chain, name ≠ "" ∧ name.toList.getLast? ≠ some '_') →
      ∀ name ∈ chain, Segments.Spellable name := fun hnames name hname =>
    ⟨(hnames name hname).1, hunsplit name hname, (hnames name hname).2⟩
  refine ⟨hchain.join_mem_paths, fun op => ⟨?_, fun hnames => ?_⟩, fun s hs hnames => ?_⟩
  · rintro ⟨path, hparse, hsegments, -⟩ name hname
    have hname := spellable_of_parse hunsplit hparse hsegments name hname
    exact ⟨hname.ne_empty, hname.getLast?_ne⟩
  · exact parse_of_spellable hchain.ne_nil (hspellable hnames) op
  · obtain ⟨path, hparse, hsegments, hlookup⟩ :=
      parse_of_spellable hchain.ne_nil (hspellable hnames) (.exact .sensitive)
    refine ⟨path, hparse, ?_⟩
    obtain ⟨own, hfield⟩ := hs.hasField
    have hsame : s.same s := Scalar.IsStored.same_self (hfield.isStored hwell)
    have hfollow := follow_of_hasScalar (Node.distinct_of_ofRecord hrecord h) hs path none
      (.scalar s) hsegments.symm
    have hresolve : path.resolve (.scalar s) n = path.resolveWith none (.scalar s) n := by
      rw [resolve, hlookup]
      rfl
    rw [hresolve, resolveWith, hfollow, hlookup]
    exact congrArg Except.ok hsame

/-- A record with an agent, who has a name. -/
def represented : Node :=
  .ofContents [("agent", .node (.ofContents [("name", .scalar (.string "n"))]))]

/-- The hypotheses are satisfiable, and so are the conditions on the names: the path
`agent__name` is listed, and the key `agent__name__exact` is parsed as that path and
holds for the name. -/
theorem parse_path_iff_represented :
    (Node.ofRecord represented.toJson = .ok represented ∧
      represented.HasScalar ["agent", "name"] (.string "n")) ∧
    Segments.join ["agent", "name"] ∈ represented.paths ∧
    (∃ path, parse .builtin (Segments.join ["agent", "name"] ++ Segments.separator ++
      (Op.contains .insensitive).name) = .ok path ∧ path.segments = ["agent", "name"] ∧
        path.lookup = .builtin (.contains .insensitive)) ∧
    ∃ path, parse .builtin (Segments.join ["agent", "name"] ++ Segments.separator ++
      (Op.exact .sensitive).name) = .ok path ∧
        path.resolve (.scalar (.string "n")) represented = .ok true := by
  have hscalar : represented.HasScalar ["agent", "name"] (.string "n") :=
    .inside (List.mem_singleton.2 rfl) (.here (List.mem_singleton.2 rfl))
  have hrecord : represented.toJson.Distinct :=
    .object (by decide) (List.forall_mem_singleton.2
      (.object (by decide) (List.forall_mem_singleton.2 (.string "n"))))
  have hnode : Node.ofRecord represented.toJson = .ok represented := by cbv
  have hnames : ∀ name ∈ ["agent", "name"], name ≠ "" ∧ name.toList.getLast? ≠ some '_' := by
    decide +kernel
  obtain ⟨own, hfield⟩ := hscalar.hasField
  obtain ⟨hpath, hparse, hholds⟩ := parse_path_iff hrecord hnode hfield
  exact ⟨⟨hnode, hscalar⟩, hpath, (hparse _).2 hnames, hholds _ hscalar hnames⟩

/-- **A name that ends in `_`, or an empty one, is accepted but can not be named.**  The
key `a___exact` looks for a field `_exact` in a field `a`, and not for the field `a_`;
the key `__exact` has an empty segment. -/
theorem parse_path_unspellable :
    (Node.ofRecord (.object [("a_", .null)]) = .ok (.ofContents [("a_", .scalar .null)]) ∧
      (Node.ofContents [("a_", .scalar .null)]).HasScalar ["a_"] .null ∧
      ∃ path, parse .builtin "a___exact" = .ok path ∧ path.segments = ["a", "_exact"] ∧
        path.resolve (.scalar .null) (.ofContents [("a_", .scalar .null)]) =
          .error (.unknownField "a" ["a_"])) ∧
    Node.ofRecord (.object [("", .null)]) = .ok (.ofContents [("", .scalar .null)]) ∧
      (Node.ofContents [("", .scalar .null)]).HasScalar [""] .null ∧
      parse .builtin "__exact" = .error (.invalidPath "__exact" .emptySegment) := by
  refine ⟨⟨by cbv, .here (List.mem_singleton.2 rfl),
    ⟨"a___exact", "a", ["_exact"], .builtin (.exact .sensitive)⟩, by cbv, rfl, by cbv⟩, by cbv,
    .here (List.mem_singleton.2 rfl), by cbv⟩

end KeyPath
end RecordQuery
