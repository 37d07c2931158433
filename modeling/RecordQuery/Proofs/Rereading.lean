/-
# Every node reads back as itself

A well-formed node that is written out as a record and classified again is the same
node: the same fields in the same order, of the same shapes, with numbers in the same
storage (`Node.WellFormed.reread`).  The record holds the names that the fields stand
under and not those that they bear, and classification takes both from the record; so
that the node comes back as it was rests on these being the same.  The depth that
classification counts from is that of the node, so a node taken out of a field may only
stand less deep.

All nodes that a program can get hold of are well formed.  They are the results of
finitely many operations on records, datasets and nodes (`Node.Reachable`), and each
of these operations chooses among nodes, narrows them or follows their fields.
-/

import RecordQuery.Proofs.WellFormed

namespace RecordQuery

/-! ### Scalars -/

/-- A number as records hold it can be written, and is read as it was. -/
theorem JsonNumber.ofNumber?_of_isStored {n : Number} (h : n.IsStored) :
    ∃ j, ofNumber? n = some j ∧ j.toNumber = n := by
  cases n with
  | signed n =>
    refine ⟨_, rfl, ?_⟩
    rw [toNumber, if_pos n.toInt_lt, Int64.ofInt_toInt]
  | unsigned n =>
    have hlarge : ¬(n.toNat : Int) < 2 ^ 63 := by
      rw [Number.IsStored] at h
      omega
    refine ⟨_, rfl, ?_⟩
    rw [toNumber, if_neg hlarge, Int.toNat_natCast, UInt64.ofNat_toNat]
  | float x => exact ⟨.float x h, dif_pos h, rfl⟩

/-- **A stored scalar reads back as itself.** -/
theorem Scalar.ofJson?_toJson {s : Scalar} (h : s.IsStored) : ofJson? s.toJson = some s := by
  cases s with
  | number n =>
    obtain ⟨j, hj, hn⟩ := JsonNumber.ofNumber?_of_isStored h
    simp [toJson, hj, ofJson?, hn]
  | _ => rfl

/-- No scalar is written as an object. -/
theorem Scalar.isObject_toJson (s : Scalar) : s.toJson.isObject = false := by
  cases s with
  | number n => cases h : JsonNumber.ofNumber? n <;> simp [toJson, h, Json.isObject]
  | _ => rfl

/-- An array of stored scalars reads back as itself. -/
theorem scalarItems_toJson (name : String) {items : List Scalar} (h : ∀ s ∈ items, s.IsStored) :
    scalarItems name (items.map Scalar.toJson) = .ok items := by
  induction items with
  | nil => rfl
  | cons s items ih =>
    obtain ⟨hs, hitems⟩ := List.forall_mem_cons.1 h
    rw [List.map_cons, scalarItems, Scalar.ofJson?_toJson hs]
    exact congrArg (Except.map (s :: ·)) (ih hitems)

/-! ### Fields and nodes -/

/-- The records of nodes that read back as themselves are classified as these nodes. -/
theorem classifyRecords_toJson {depth : Nat} {members : List Node}
    (h : ∀ m ∈ members, classifyMembers depth (fieldsToJson m.fields) = .ok m.fields) :
    classifyRecords depth (nodesToJson members) = .ok members := by
  induction members with
  | nil => rfl
  | cons m members ih =>
    obtain ⟨hm, hmembers⟩ := List.forall_mem_cons.1 h
    obtain ⟨fields⟩ := m
    rw [nodesToJson, Node.toJson, classifyRecords, ih hmembers]
    rw [Node.fields] at hm
    rw [hm]
    rfl

/-- All nodes are written as objects. -/
theorem all_isObject_nodesToJson (members : List Node) :
    (nodesToJson members).all Json.isObject = true := by
  rw [nodesToJson_eq_map, List.all_eq_true]
  rintro _ hm
  obtain ⟨⟨fields⟩, -, rfl⟩ := List.mem_map.1 hm
  rfl

/-- **A field reads back as itself** if the nodes in it do. -/
theorem FieldStored.classify_toJson {depth : Nat} {name : String} {field : Field}
    (h : FieldStored depth (name, field))
    (hrelated : ∀ child ∈ field.related,
      classifyMembers (depth + 1) (fieldsToJson child.fields) = .ok child.fields) :
    Field.classify depth name field.toJson = .ok field := by
  obtain ⟨hname, hsplit, hdepth, hstored⟩ := h
  obtain ⟨own, content⟩ := field
  refine Field.classify_eq_ok_iff.2 ⟨hname, ?_⟩
  rw [Field.toJson]
  cases content with
  | scalar s => exact Content.classify_leaf hsplit hdepth (Scalar.ofJson?_toJson hstored)
  | array items =>
    obtain ⟨hsome, hitems⟩ := hstored
    have hmixed : (items.map Scalar.toJson).all Json.isObject = false := by
      obtain ⟨s, items, rfl⟩ := List.exists_cons_of_ne_nil hsome
      simp [Scalar.isObject_toJson]
    rw [Content.toJson, Content.classify_items hsplit hdepth hmixed,
      scalarItems_toJson name hitems]
    rfl
  | node n =>
    obtain ⟨fields⟩ := n
    have hfields : classifyMembers (depth + 1) (fieldsToJson fields) = .ok fields :=
      hrelated _ (List.mem_singleton.2 rfl)
    rw [Content.toJson, Node.toJson, Content.classify_object hsplit hdepth, hfields]
    rfl
  | dataset members =>
    have hmembers : classifyRecords (depth + 1) (nodesToJson members) = .ok members :=
      classifyRecords_toJson hrelated
    rw [Content.toJson, Content.classify_records hsplit hdepth (all_isObject_nodesToJson members),
      hmembers]
    rfl

/-- **The fields of a well-formed node read back as themselves,** at its depth. -/
theorem Node.WellFormed.classifyMembers_toJson {n : Node} {depth : Nat} (h : n.WellFormed depth) :
    classifyMembers depth (fieldsToJson n.fields) = .ok n.fields := by
  induction h with
  | @intro depth n hfields _ ih =>
    rw [classifyMembers_eq_mapM, fieldsToJson_eq_map, mapM_eq_ok_iff, List.forall₂_map_left_iff,
      List.forall₂_same]
    intro entry hentry
    exact congrArg (Except.map (entry.1, ·))
      ((hfields entry hentry).classify_toJson (ih entry hentry))

/-- **A well-formed node reads back as itself.** -/
theorem Node.WellFormed.reread {n : Node} (h : n.WellFormed 0) :
    ofRecord n.toJson = .ok n := by
  obtain ⟨fields⟩ := n
  exact congrArg (Except.map Node.ofFields) h.classifyMembers_toJson

/-! ### The record that is written -/

/-- What a scalar is written as repeats no name. -/
theorem Scalar.distinct_toJson (s : Scalar) : s.toJson.Distinct := by
  cases s with
  | null => exact .null
  | bool b => exact .bool b
  | number n =>
    cases h : JsonNumber.ofNumber? n with
    | none => simpa [toJson, h] using Json.Distinct.null
    | some j => simpa [toJson, h] using Json.Distinct.number j
  | string s => exact .string s

/-- **The record of a node without repeated names has none either.** -/
theorem Node.Distinct.toJson {n : Node} (h : n.Distinct) : n.toJson.Distinct := by
  induction h with
  | @intro n hnames _ ih =>
    obtain ⟨fields⟩ := n
    rw [Node.toJson, fieldsToJson_eq_map]
    refine .object ?_ fun member hmember => ?_
    · rw [Node.names, Node.fields] at hnames
      simpa [Entries.names, Function.comp_def] using hnames
    · obtain ⟨⟨name, own, content⟩, hentry, rfl⟩ := List.mem_map.1 hmember
      have hrelated := ih _ hentry
      cases content with
      | scalar s => exact s.distinct_toJson
      | array items =>
        refine .array fun item hitem => ?_
        obtain ⟨s, -, rfl⟩ := List.mem_map.1 hitem
        exact s.distinct_toJson
      | node n => exact hrelated n (List.mem_singleton.2 rfl)
      | dataset members =>
        refine .array fun item hitem => ?_
        rw [nodesToJson_eq_map] at hitem
        obtain ⟨m, hm, rfl⟩ := List.mem_map.1 hitem
        exact hrelated m hm

/-! ### Reachable nodes -/

section

variable [PatternEngine]

mutual

/-- A dataset that finitely many operations lead to.  What is loaded from a text is read from
the value that the text is of. -/
inductive Dataset.Reachable : Dataset → Prop where
  | ofRecords {records : List Json} {d : Dataset} : (∀ record ∈ records, record.Distinct) →
    Dataset.ofRecords records = .ok d → Dataset.Reachable d
  | ofJson {value : Json} {d : Dataset} : value.Distinct → Dataset.ofJson value = .ok d →
    Dataset.Reachable d
  | ofNodes {nodes : List Node} : (∀ n ∈ nodes, Node.Reachable n) →
    Dataset.Reachable (.ofNodes nodes)
  | onCascade {d : Dataset} : Dataset.Reachable d → Dataset.Reachable d.onCascade
  | filter {registry : Registry} {q : Query} {d r : Dataset} : Dataset.Reachable d →
    d.filter registry q = .ok r → Dataset.Reachable r
  | exclude {registry : Registry} {q : Query} {d r : Dataset} : Dataset.Reachable d →
    d.exclude registry q = .ok r → Dataset.Reachable r
  | filterRelated {registry : Registry} {name : String} {q : Query} {d r : Dataset} :
    Dataset.Reachable d → d.filterRelated registry name q = .ok r → Dataset.Reachable r
  | distinct {d : Dataset} : Dataset.Reachable d → Dataset.Reachable d.distinct
  | union {d e : Dataset} : Dataset.Reachable d → Dataset.Reachable e →
    Dataset.Reachable (d.union e)

/-- A node that finitely many operations lead to.  Nodes are taken out of datasets and
out of fields, those of other nodes and those that are classified by themselves. -/
inductive Node.Reachable : Node → Prop where
  | ofRecord {record : Json} {n : Node} : record.Distinct → Node.ofRecord record = .ok n →
    Node.Reachable n
  | filter {registry : Registry} {q : Query} {n r : Node} : Node.Reachable n →
    n.filter registry q = .ok r → Node.Reachable r
  | member {d : Dataset} {n : Node} : Dataset.Reachable d → n ∈ d.nodes → Node.Reachable n
  | related {n child : Node} {name : String} {field : Field} : Node.Reachable n →
    n.get? name = some field → child ∈ field.related → Node.Reachable child
  | ofField {name : String} {value : Json} {field : Field} {child : Node} : value.Distinct →
    Field.ofJson name value = .ok field → child ∈ field.related → Node.Reachable child

end

/-- The nodes of a field that is classified by itself come from a record. -/
theorem Node.Built.ofField {name : String} {value : Json} {field : Field} {child : Node}
    (hvalue : value.Distinct) (h : Field.ofJson name value = .ok field)
    (hchild : child ∈ field.related) : child.Built := by
  -- The field is the only one of a record.
  have hrecord : (Json.object [(name, value)]).Distinct :=
    .object (by simp [Entries.names]) (by simpa using hvalue)
  have hnode : Node.ofRecord (.object [(name, value)]) = .ok (.ofFields [(name, field)]) := by
    rw [Field.ofJson] at h
    rw [Node.ofRecord, classifyMembers_eq_mapM, List.mapM_cons, h]
    rfl
  exact .related (.ofRecord hrecord hnode) (if_pos rfl) hchild

/-- Filtering a node gives that node, if any. -/
theorem Node.eq_of_filter {registry : Registry} {q : Query} {n r : Node}
    (h : n.filter registry q = .ok r) : r = n := by
  obtain ⟨holds, -, h⟩ := bind_eq_ok_iff.1 h
  split at h
  · exact (Except.ok.inj h).symm
  · simp [throw, throwThe, MonadExceptOf.throw] at h

mutual

/-- **All nodes of reachable datasets come from records.** -/
theorem Dataset.Reachable.built : ∀ {d : Dataset}, d.Reachable → d.Built
  | _, .ofRecords hrecords h => .ofRecords hrecords h
  | _, .ofJson hvalue h => .ofJson hvalue h
  | _, .ofNodes hnodes => fun n hn => (hnodes n hn).built
  | _, .onCascade hd => hd.built
  | _, .filter hd h => hd.built.choose (show Dataset.choose .matching .. = .ok _ from h)
  | _, .exclude hd h => hd.built.choose (show Dataset.choose .others .. = .ok _ from h)
  | _, .filterRelated hd h => hd.built.filterRelated h
  | _, .distinct hd => hd.built.distinct
  | _, .union hd he => hd.built.union he.built

/-- **All reachable nodes come from records.** -/
theorem Node.Reachable.built : ∀ {n : Node}, n.Reachable → n.Built
  | _, .ofRecord hrecord h => .ofRecord hrecord h
  | _, .filter hn h => Node.eq_of_filter h ▸ hn.built
  | _, .member hd hn => hd.built _ hn
  | _, .related hn hget hchild => .related hn.built hget hchild
  | _, .ofField hvalue h hchild => .ofField hvalue h hchild

end

namespace Node

/-- **Every reachable node reads back as itself.**  Let a node be the result of finitely
many operations.  The record that it is written as has no name twice, and classifying
that record gives the very same node.  So, at any depth:

* Every field bears the name that it stands under, and no name stands twice.
* No name holds the separator, no array is empty, numbers are stored as a record stores
  them and are finite, and no field is enclosed by too many others. -/
theorem ofRecord_toJson {n : Node} (h : n.Reachable) :
    (n.toJson.Distinct ∧ ofRecord n.toJson = .ok n) ∧
      (n.Named ∧ n.Distinct) ∧ n.WellFormed 0 := by
  obtain ⟨hnamed, hdistinct⟩ := h.built.indexed
  exact ⟨⟨hdistinct.toJson, h.built.wellFormed.reread⟩, ⟨hnamed, hdistinct⟩, h.built.wellFormed⟩

end Node

end

namespace Node

/-- An author of one novel is well formed. -/
theorem wellFormed_author (genre : String) : (author [novel genre]).WellFormed 0 := by
  have hunsplit : ∀ name ∈ ["title", "genre", "name", "books"], Segments.isSplit name = false := by
    decide +kernel
  have hnovel : (novel genre).WellFormed 1 :=
    .intro (List.forall_mem_cons.2 ⟨⟨rfl, hunsplit "title" (by decide), by decide, trivial⟩,
      List.forall_mem_singleton.2 ⟨rfl, hunsplit "genre" (by decide), by decide, trivial⟩⟩)
      (by simp [novel, Node.ofContents, Node.fields, Field.related, Content.related])
  refine .intro (List.forall_mem_cons.2 ⟨⟨rfl, hunsplit "name" (by decide), by decide, trivial⟩,
    List.forall_mem_singleton.2 ⟨rfl, hunsplit "books" (by decide), by decide, trivial⟩⟩) ?_
  simp [author, Node.ofContents, Node.fields, Field.related, Content.related, hnovel]

/-- The hypothesis is satisfiable by a node whose only book was narrowed away: its
dataset is empty, and reads back as an empty dataset. -/
theorem ofRecord_toJson_author :
    (author []).Reachable ∧ ofRecord (author []).toJson = .ok (author []) := by
  have hrecord : (author [novel "x"]).Reachable :=
    .ofRecord (indexed_author (by simp [indexed_novel])).distinct.toJson
      (wellFormed_author "x").reread
  have hexclude : (Dataset.ofNodes [author [novel "x"]]).onCascade.exclude .builtin
      ⟨[("books__genre", .scalar (.string "x")), ("name", .scalar (.string "m"))]⟩ =
        .ok (.ofNodes [author []]) := by cbv
  have hreachable : (author []).Reachable :=
    .member (.exclude (.onCascade (.ofNodes (List.forall_mem_singleton.2 hrecord))) hexclude)
      (List.mem_singleton.2 rfl)
  exact ⟨hreachable, (ofRecord_toJson hreachable).1.2⟩

end Node
end RecordQuery
