/-
# Tables of fields

The fields of a node are a list here, and a name is looked up at its first place.
A record has no name twice, so neither has a node that was classified from it, nor
a node nested in that one (`Node.distinct_of_ofRecord`), and looking up the name that
a field stands under finds that field (`Node.Distinct.get?_of_mem`).

Classification gives every field the name of its member a second time, as the name
that the field bears (`Node.named_of_ofRecord`).  A node for which both hold at
every depth is a table that is indexed by the names of its fields (`Node.Indexed`).
-/

import RecordQuery.Proofs.FirstFault

namespace RecordQuery

/-- Among entries without repeated names each one is found under its name. -/
theorem Entries.get?_of_mem {α : Type} {entries : Entries α} {name : String} {a : α}
    (h : entries.names.Nodup) (hmem : (name, a) ∈ entries) : entries.get? name = some a := by
  induction entries with
  | nil => exact absurd hmem List.not_mem_nil
  | cons entry entries ih =>
    obtain ⟨hnot, h⟩ := List.nodup_cons.1 h
    rcases List.mem_cons.1 hmem with rfl | hmem
    · exact if_pos rfl
    · have hne : entry.1 ≠ name := fun he => hnot (List.mem_map.2 ⟨_, hmem, he.symm⟩)
      exact (if_neg hne).trans (ih h hmem)

/-- What is found under a name stands under that name. -/
theorem Entries.mem_of_get? {α : Type} {entries : Entries α} {name : String} {a : α}
    (h : entries.get? name = some a) : (name, a) ∈ entries := by
  induction entries with
  | nil => simp [Entries.get?] at h
  | cons entry entries ih =>
    rw [Entries.get?] at h
    split at h
    · rename_i hname
      exact List.mem_cons.2 (.inl (by rw [← hname, ← Option.some.inj h]))
    · exact List.mem_cons_of_mem _ (ih h)

/-- Putting a value under a name adds no entry but the one that is put. -/
theorem Entries.mem_put {α : Type} {entries : Entries α} {name : String} {a : α}
    {entry : String × α} (h : entry ∈ entries.put name a) :
    entry = (name, a) ∨ entry ∈ entries := by
  induction entries with
  | nil => exact .inl (List.mem_singleton.1 h)
  | cons first entries ih =>
    rw [Entries.put] at h
    split at h
    · rename_i hname
      rcases List.mem_cons.1 h with rfl | h
      · exact .inl (by rw [hname])
      · exact .inr (List.mem_cons_of_mem _ h)
    · rcases List.mem_cons.1 h with rfl | h
      · exact .inr List.mem_cons_self
      · exact (ih h).imp_right (List.mem_cons_of_mem _)

/-- Putting a value under a name repeats no name. -/
theorem Entries.nodup_names_put {α : Type} {entries : Entries α} (h : entries.names.Nodup)
    (name : String) (a : α) : (entries.put name a).names.Nodup := by
  rw [Entries.names_put]
  split
  · exact h
  · rename_i hnew
    simpa [List.nodup_append] using ⟨h, fun other hother he => hnew (he ▸ hother)⟩

/-- Entries that agree in their names one by one have the same names in the same order. -/
theorem Entries.names_eq_of_forall₂ {α β : Type} {entries : Entries α} {entries' : Entries β}
    (h : List.Forall₂ (fun entry entry' => entry.1 = entry'.1) entries entries') :
    entries.names = entries'.names := by
  induction h with
  | nil => rfl
  | cons hname _ ih => exact congrArg₂ List.cons hname ih

/-- Entries that correspond one by one under the same names correspond under every
name. -/
theorem Entries.exists_get?_of_forall₂ {α β : Type} {R : String → α → β → Prop}
    {entries : Entries α} {entries' : Entries β}
    (h : List.Forall₂ (fun entry entry' => entry.1 = entry'.1 ∧ R entry.1 entry.2 entry'.2)
      entries entries') {name : String} {a : α} (hget : entries.get? name = some a) :
    ∃ b, entries'.get? name = some b ∧ R name a b := by
  induction h with
  | nil => cases hget
  | @cons entry entry' entries entries' hentry _ ih =>
    obtain ⟨hname, hR⟩ := hentry
    by_cases he : entry.1 = name
    · obtain rfl : entry.2 = a := Option.some.inj ((if_pos he).symm.trans hget)
      exact ⟨entry'.2, if_pos (hname ▸ he), he ▸ hR⟩
    · obtain ⟨b, hb, hab⟩ := ih ((if_neg he).symm.trans hget)
      exact ⟨b, (if_neg (hname ▸ he)).trans hb, hab⟩

/-- A JSON value in which no object has a name twice. -/
inductive Json.Distinct : Json → Prop where
  | null : Json.Distinct .null
  | bool (b : Bool) : Json.Distinct (.bool b)
  | number (n : JsonNumber) : Json.Distinct (.number n)
  | string (s : String) : Json.Distinct (.string s)
  | array {items : List Json} : (∀ item ∈ items, Json.Distinct item) → Json.Distinct (.array items)
  | object {members : List (String × Json)} : (Entries.names members).Nodup →
    (∀ member ∈ members, Json.Distinct member.2) → Json.Distinct (.object members)

/-- The empty object has no name twice. -/
theorem Json.distinct_object_nil : (Json.object []).Distinct :=
  .object List.nodup_nil (List.forall_mem_nil _)

/-- A node that has no name twice, and neither have the nodes nested in it. -/
inductive Node.Distinct : Node → Prop where
  | intro {n : Node} : n.names.Nodup →
    (∀ entry ∈ n.fields, ∀ child ∈ entry.2.related, Node.Distinct child) → Node.Distinct n

/-- A node in which every field bears the name that it stands under, and so do the fields of
the nodes nested in it. -/
inductive Node.Named : Node → Prop where
  | intro {n : Node} : (∀ entry ∈ n.fields, entry.2.name = entry.1) →
    (∀ entry ∈ n.fields, ∀ child ∈ entry.2.related, Node.Named child) → Node.Named n

/-- A node whose fields are indexed by their names, at every depth: each stands under the
name that it bears, and no other does. -/
structure Node.Indexed (n : Node) : Prop where
  named : n.Named
  distinct : n.Distinct

namespace Node

variable {n : Node} {name : String} {field : Field}

/-- In a node without repeated names every field is found under its name. -/
theorem Distinct.get?_of_mem (h : n.Distinct) (hmem : (name, field) ∈ n.fields) :
    n.get? name = some field := by
  obtain ⟨hnames, -⟩ := h
  exact Entries.get?_of_mem hnames hmem

/-- A node in a field of a node without repeated names has none either. -/
theorem Distinct.of_related {child : Node} (h : n.Distinct) (hget : n.get? name = some field)
    (hchild : child ∈ field.related) : child.Distinct := by
  obtain ⟨-, hchildren⟩ := h
  exact hchildren _ (Entries.mem_of_get? hget) child hchild

/-- In a named node the field that is found under a name bears that name. -/
theorem Named.name_eq (h : n.Named) (hget : n.get? name = some field) : field.name = name := by
  obtain ⟨hnames, -⟩ := h
  exact hnames _ (Entries.mem_of_get? hget)

/-- A node in a field of a named node is named. -/
theorem Named.of_related {child : Node} (h : n.Named) (hget : n.get? name = some field)
    (hchild : child ∈ field.related) : child.Named := by
  obtain ⟨-, hchildren⟩ := h
  exact hchildren _ (Entries.mem_of_get? hget) child hchild

/-- A node made of contents under names bears these names, so it is indexed if no name is
repeated and the nodes in the contents are indexed. -/
theorem Indexed.ofContents {contents : List (String × Content)}
    (hnames : (Entries.names contents).Nodup)
    (h : ∀ entry ∈ contents, ∀ child ∈ entry.2.related, child.Indexed) :
    (Node.ofContents contents).Indexed := by
  have hchildren : ∀ entry ∈ (Node.ofContents contents).fields, ∀ child ∈ entry.2.related,
      child.Indexed := List.forall_mem_map.2 h
  refine ⟨.intro (List.forall_mem_map.2 fun _ _ => rfl) fun entry hentry child hchild =>
    (hchildren entry hentry child hchild).named, .intro ?_ fun entry hentry child hchild =>
    (hchildren entry hentry child hchild).distinct⟩
  rw [names, Entries.names, Node.ofContents, fields, List.map_map]
  exact hnames

/-- A node in a field of an indexed node is indexed. -/
theorem Indexed.of_related {child : Node} (h : n.Indexed) (hget : n.get? name = some field)
    (hchild : child ∈ field.related) : child.Indexed :=
  ⟨h.named.of_related hget hchild, h.distinct.of_related hget hchild⟩

end Node

/-! ### Classification -/

/-- A field is classified by what it is to hold, and bears the name that it is classified
under. -/
theorem Field.classify_eq_ok_iff {depth : Nat} {name : String} {value : Json} {field : Field} :
    classify depth name value = .ok field ↔
      field.name = name ∧ Content.classify depth name value = .ok field.content := by
  obtain ⟨name', content⟩ := field
  rw [classify, map_eq_ok_iff]
  constructor
  · rintro ⟨_, h, he⟩
    obtain ⟨rfl, rfl⟩ := Field.mk.inj he
    exact ⟨rfl, h⟩
  · rintro ⟨rfl, h⟩
    exact ⟨content, h, rfl⟩

/-- The members of an object are classified one by one, each under its name. -/
theorem classifyMembers_eq_mapM (depth : Nat) (members : List (String × Json)) :
    classifyMembers depth members = members.mapM fun member =>
      (Field.classify depth member.1 member.2).map (member.1, ·) := by
  induction members with
  | nil => rfl
  | cons member members ih =>
    rw [classifyMembers, List.mapM_cons, ← ih, Field.classify]
    cases Content.classify depth member.1 member.2 <;> rfl

/-- The node of one record of a list. -/
def classifyRecord (level : Nat) : Json → Except LookupError Node
  | .object members => (classifyMembers level members).map .ofFields
  | record => .error (.malformedRecord (.memberNotAnObject record.type))

/-- The records of a list are classified one by one. -/
theorem classifyRecords_eq_mapM (level : Nat) (records : List Json) :
    classifyRecords level records = records.mapM (classifyRecord level) := by
  induction records with
  | nil => rfl
  | cons record records ih =>
    rw [List.mapM_cons, ← ih]
    cases record with
    | object members =>
      rw [classifyRecords, classifyRecord]
      cases classifyMembers level members <;> rfl
    | _ => rfl

/-- The items of an array of scalars are read one by one. -/
theorem scalarItems_eq_mapM (name : String) (items : List Json) :
    scalarItems name items = items.mapM fun item =>
      (Scalar.ofJson? item).elim (.error (.malformedRecord (.mixedArray name))) .ok := by
  induction items with
  | nil => rfl
  | cons item items ih =>
    rw [scalarItems, List.mapM_cons, ← ih]
    cases Scalar.ofJson? item with
    | none => rfl
    | some s => cases scalarItems name items <;> rfl

/-- The fields of a classified object stand under the names of its members, and each is
what its member was classified as. -/
theorem forall₂_of_classifyMembers {depth : Nat} {members : List (String × Json)}
    {fields : List (String × Field)} (h : classifyMembers depth members = .ok fields) :
    List.Forall₂ (fun member entry => member.1 = entry.1 ∧
      Field.classify depth member.1 member.2 = .ok entry.2) members fields := by
  rw [classifyMembers_eq_mapM, mapM_eq_ok_iff] at h
  refine h.imp fun member entry hentry => ?_
  obtain ⟨field, hfield, rfl⟩ := map_eq_ok_iff.1 hentry
  exact ⟨rfl, hfield⟩

/-- The nodes of a list of records are classified from objects, one by one. -/
theorem forall₂_of_classifyRecords {depth : Nat} {records : List Json} {nodes : List Node}
    (h : classifyRecords depth records = .ok nodes) :
    List.Forall₂ (fun record n => ∃ members fields, record = .object members ∧
      n = .ofFields fields ∧ classifyMembers depth members = .ok fields) records nodes := by
  rw [classifyRecords_eq_mapM, mapM_eq_ok_iff] at h
  refine h.imp fun record n hrecord => ?_
  cases record with
  | object members =>
    obtain ⟨fields, hfields, rfl⟩ := map_eq_ok_iff.1 hrecord
    exact ⟨members, fields, rfl, rfl, hfields⟩
  | _ => cases hrecord

/-- The fields of a classified object stand under the names of its members, in order. -/
theorem names_of_classifyMembers {depth : Nat} {members : List (String × Json)}
    {fields : List (String × Field)} (h : classifyMembers depth members = .ok fields) :
    Entries.names fields = Entries.names members :=
  (Entries.names_eq_of_forall₂
    ((forall₂_of_classifyMembers h).imp fun _ _ hentry => hentry.1)).symm

/-- **What a field can hold.**  A value is classified if it is a leaf, an array of leaves
that is not empty, an object or an array of objects, each under a name without the separator
and not too deep. -/
theorem Content.cases_of_classify {depth : Nat} {name : String} {value : Json}
    {content : Content} (h : classify depth name value = .ok content) :
    (Segments.isSplit name = false ∧ depth ≤ maxDepth) ∧
      ((∃ s, Scalar.ofJson? value = some s ∧ content = .scalar s) ∨
        (∃ items scalars, value = .array items ∧ items.all Json.isObject = false ∧
          scalarItems name items = .ok scalars ∧ content = .array scalars) ∨
        (∃ members fields, value = .object members ∧
          classifyMembers (depth + 1) members = .ok fields ∧ content = .node (.ofFields fields)) ∨
        ∃ items nodes, value = .array items ∧
          classifyRecords (depth + 1) items = .ok nodes ∧ content = .dataset nodes) := by
  cases hname : Segments.isSplit name with
  | true =>
    rw [classify_of_isSplit hname] at h
    cases h
  | false =>
    rcases Nat.lt_or_ge maxDepth depth with hdeep | hdepth
    · rw [classify_of_tooDeep hname hdeep] at h
      cases h
    refine ⟨⟨rfl, hdepth⟩, ?_⟩
    cases value with
    | array items =>
      cases hitems : items.all Json.isObject with
      | true =>
        rw [classify_records hname hdepth hitems] at h
        obtain ⟨nodes, hnodes, rfl⟩ := map_eq_ok_iff.1 h
        exact .inr (.inr (.inr ⟨items, nodes, rfl, hnodes, rfl⟩))
      | false =>
        rw [classify_items hname hdepth hitems] at h
        obtain ⟨scalars, hscalars, rfl⟩ := map_eq_ok_iff.1 h
        exact .inr (.inl ⟨items, scalars, rfl, hitems, hscalars, rfl⟩)
    | object members =>
      rw [classify_object hname hdepth] at h
      obtain ⟨fields, hfields, rfl⟩ := map_eq_ok_iff.1 h
      exact .inr (.inr (.inl ⟨members, fields, rfl, hfields, rfl⟩))
    | _ =>
      rw [classify_leaf hname hdepth rfl] at h
      exact .inl ⟨_, rfl, (Except.ok.inj h).symm⟩

/-- The nodes of a classified field come from the members of an object, or of the
objects of an array. -/
theorem exists_members_of_classify {depth : Nat} {name : String} {value : Json}
    {content : Content} (h : Content.classify depth name value = .ok content) {child : Node}
    (hchild : child ∈ content.related) : ∃ members fields, child = .ofFields fields ∧
      classifyMembers (depth + 1) members = .ok fields ∧
        (value = .object members ∨ ∃ items, value = .array items ∧ .object members ∈ items) := by
  obtain ⟨-, ⟨s, -, rfl⟩ | ⟨items, scalars, rfl, -, -, rfl⟩ | ⟨members, fields, rfl, hfields, rfl⟩ |
    ⟨items, nodes, rfl, hnodes, rfl⟩⟩ := Content.cases_of_classify h
  · exact absurd hchild List.not_mem_nil
  · exact absurd hchild List.not_mem_nil
  · exact ⟨members, fields, List.mem_singleton.1 hchild, hfields, .inl rfl⟩
  · obtain ⟨_, hitem, members, fields, rfl, rfl, hfields⟩ :=
      exists_mem_of_forall₂ (forall₂_of_classifyRecords hnodes) hchild
    exact ⟨members, fields, rfl, hfields, .inr ⟨items, rfl, hitem⟩⟩

/-- The induction behind `Node.distinct_of_ofRecord`, over the value that the members
come from: the value itself, or one item of it. -/
theorem distinct_of_classifyMembers {value : Json} (hvalue : value.Distinct) :
    ∀ {depth : Nat} {members : List (String × Json)} {fields : List (String × Field)},
      (value = .object members ∨ ∃ items, value = .array items ∧ .object members ∈ items) →
        classifyMembers depth members = .ok fields → (Node.ofFields fields).Distinct := by
  induction hvalue with
  | array _ ih =>
    rintro depth members fields (h | ⟨items, h, hitem⟩) hfields
    · exact Json.noConfusion h
    · cases h
      exact ih _ hitem (.inl rfl) hfields
  | object hnames _ ih =>
    rintro depth members fields (h | ⟨items, h, -⟩) hfields
    · cases h
      refine .intro ?_ fun entry hentry child hchild => ?_
      · rw [Node.names, Node.fields, names_of_classifyMembers hfields]
        exact hnames
      · obtain ⟨member, hmem, -, hclassify⟩ :=
          exists_mem_of_forall₂ (forall₂_of_classifyMembers hfields) hentry
        obtain ⟨-, hcontent⟩ := Field.classify_eq_ok_iff.1 hclassify
        obtain ⟨_, _, rfl, hchildFields, hfrom⟩ := exists_members_of_classify hcontent hchild
        exact ih member hmem hfrom hchildFields
    · exact Json.noConfusion h
  | _ =>
    rintro depth members fields (h | ⟨items, h, -⟩) <;> exact Json.noConfusion h

/-- **A record without repeated names becomes a node without repeated names,** at
every depth. -/
theorem Node.distinct_of_ofRecord {record : Json} {n : Node} (hrecord : record.Distinct)
    (h : Node.ofRecord record = .ok n) : n.Distinct := by
  cases record with
  | object members =>
    obtain ⟨fields, hfields, rfl⟩ := map_eq_ok_iff.1 h
    exact distinct_of_classifyMembers hrecord (.inl rfl) hfields
  | _ => simp [Node.ofRecord] at h

/-- **Classification gives every field the name that it stands under.**  The induction is on
the node, so it does not matter what the members are. -/
theorem Node.named_of_classifyMembers (n : Node) : ∀ {depth : Nat} {members : List (String × Json)},
    classifyMembers depth members = .ok n.fields → n.Named := by
  induction n using Node.induction with
  | step n ih =>
    intro depth members h
    refine .intro (fun entry hentry => ?_) fun entry hentry child hchild => ?_
    · obtain ⟨member, -, hname, hclassify⟩ :=
        exists_mem_of_forall₂ (forall₂_of_classifyMembers h) hentry
      exact (Field.classify_eq_ok_iff.1 hclassify).1.trans hname
    · obtain ⟨member, -, -, hclassify⟩ :=
        exists_mem_of_forall₂ (forall₂_of_classifyMembers h) hentry
      obtain ⟨-, hcontent⟩ := Field.classify_eq_ok_iff.1 hclassify
      obtain ⟨_, _, rfl, hfields, -⟩ := exists_members_of_classify hcontent hchild
      exact ih entry.1 entry.2 hentry _ hchild hfields

/-- **In the node of a record every field bears the name that it stands under,** at every
depth. -/
theorem Node.named_of_ofRecord {record : Json} {n : Node} (h : Node.ofRecord record = .ok n) :
    n.Named := by
  cases record with
  | object members =>
    obtain ⟨fields, hfields, rfl⟩ := map_eq_ok_iff.1 h
    exact named_of_classifyMembers (.ofFields fields) hfields
  | _ => simp [Node.ofRecord] at h

end RecordQuery
