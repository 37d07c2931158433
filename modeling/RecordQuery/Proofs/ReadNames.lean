/-
# What is read from a text has no name twice

Where a text gives a name twice in one object, the last member counts, at the place of the
first.  So in all that is open while a text is read no name stands twice
(`Json.Reading.Distinct`), and taking one more token changes nothing about this; hence it holds
of what has been read when all is closed (`Json.distinct_of_ofText?`), and the nodes of a
dataset that is loaded from a text come from records.
-/

import RecordQuery.Proofs.Built

namespace RecordQuery

namespace Json

/-- An open array or object without repeated names. -/
def Frame.Distinct : Frame → Prop
  | .items done => ∀ item ∈ done, item.Distinct
  | .members done => (Json.object done).Distinct
  | .member done _ => (Json.object done).Distinct

/-- A reading without repeated names so far. -/
def Reading.Distinct : Reading → Prop
  | .complete v => v.Distinct
  | .value stack | .firstItem stack | .firstName stack | .name stack | .colon stack
  | .more stack => ∀ frame ∈ stack, frame.Distinct

/-- An object stays without repeated names when a member is put into it. -/
theorem Distinct.put {done : Entries Json} {value : Json} (hdone : (Json.object done).Distinct)
    (hvalue : value.Distinct) (name : String) : (Json.object (done.put name value)).Distinct := by
  cases hdone with
  | object hnames hmembers =>
    refine .object (Entries.nodup_names_put hnames name value) fun member hmember => ?_
    rcases Entries.mem_put hmember with rfl | hmember
    · exact hvalue
    · exact hmembers member hmember

namespace Reading

variable {stack : List Frame} {reading next : Reading} {token : Token} {limit : Nat}

/-- A value that is finished goes into the array or object that is open, and repeats no name
there. -/
theorem distinct_of_finish {value : Json} (hvalue : value.Distinct)
    (hstack : ∀ frame ∈ stack, frame.Distinct) (h : finish value stack = some next) :
    next.Distinct := by
  match stack, hstack, h with
  | [], _, h =>
    cases h
    exact hvalue
  | .items done :: stack, hstack, h =>
    cases h
    obtain ⟨hdone, hstack⟩ := List.forall_mem_cons.1 hstack
    exact List.forall_mem_cons.2 ⟨List.forall_mem_cons.2 ⟨hvalue, hdone⟩, hstack⟩
  | .member done key :: stack, hstack, h =>
    cases h
    obtain ⟨hdone, hstack⟩ := List.forall_mem_cons.1 hstack
    exact List.forall_mem_cons.2 ⟨hdone.put hvalue key, hstack⟩

/-- The first token of a value repeats no name: a new array or object is empty. -/
theorem distinct_of_begin? (hstack : ∀ frame ∈ stack, frame.Distinct)
    (h : begin? limit stack token = some next) : next.Distinct := by
  cases token with
  | null => exact distinct_of_finish .null hstack h
  | bool b => exact distinct_of_finish (.bool b) hstack h
  | number n => exact distinct_of_finish (.number n) hstack h
  | string s => exact distinct_of_finish (.string s) hstack h
  | openArray =>
    obtain ⟨-, h⟩ := Option.ite_none_right_eq_some.1 h
    cases h
    exact List.forall_mem_cons.2 ⟨List.forall_mem_nil _, hstack⟩
  | openObject =>
    obtain ⟨-, h⟩ := Option.ite_none_right_eq_some.1 h
    cases h
    exact List.forall_mem_cons.2 ⟨distinct_object_nil, hstack⟩
  | _ => simp [begin?] at h

/-- The name of a member is only remembered until its value is there. -/
theorem distinct_of_name? (hstack : ∀ frame ∈ stack, frame.Distinct)
    (h : name? stack token = some next) : next.Distinct := by
  unfold name? at h
  split at h
  · cases h
    obtain ⟨hdone, hstack⟩ := List.forall_mem_cons.1 hstack
    exact List.forall_mem_cons.2 ⟨hdone, hstack⟩
  · simp at h

/-- **Taking a token repeats no name.** -/
theorem distinct_of_step? (hreading : reading.Distinct)
    (h : step? limit reading token = some next) : next.Distinct := by
  unfold step? at h
  split at h
  · exact distinct_of_begin? hreading h
  · exact distinct_of_finish (.array (List.forall_mem_nil _))
      (List.forall_mem_cons.1 hreading).2 h
  · exact distinct_of_begin? hreading h
  · exact distinct_of_finish distinct_object_nil (List.forall_mem_cons.1 hreading).2 h
  · exact distinct_of_name? hreading h
  · exact distinct_of_name? hreading h
  · cases h
    exact hreading
  · cases h
    exact hreading
  · obtain ⟨hdone, hstack⟩ := List.forall_mem_cons.1 hreading
    exact distinct_of_finish (.array fun item hitem => hdone item (List.mem_reverse.1 hitem))
      hstack h
  · cases h
    exact hreading
  · obtain ⟨hdone, hstack⟩ := List.forall_mem_cons.1 hreading
    exact distinct_of_finish hdone hstack h
  · simp at h

/-- Taking any row of tokens repeats no name. -/
theorem distinct_of_foldlM {tokens : List Token} (hreading : reading.Distinct)
    (h : tokens.foldlM (step? limit) reading = some next) : next.Distinct := by
  induction tokens generalizing reading with
  | nil => exact Option.some.inj h ▸ hreading
  | cons token tokens ih =>
    obtain ⟨between, hbetween, h⟩ := Option.bind_eq_some_iff.1 h
    exact ih (distinct_of_step? hreading hbetween) h

end Reading

/-- **A value that is read from a text has no name twice.** -/
theorem distinct_of_ofText? {text : String} {value : Json} (h : ofText? text = some value) :
    value.Distinct := by
  obtain ⟨tokens, -, h⟩ := Option.bind_eq_some_iff.1 h
  unfold ofTokens? at h
  split at h
  · rename_i hcomplete
    cases h
    have hstart : Reading.Distinct (.value []) := List.forall_mem_nil _
    exact Reading.distinct_of_foldlM hstart hcomplete
  · simp at h

end Json

/-- **What is loaded from a text in the standard format is made of records,** in which no name
stands twice. -/
theorem Dataset.Built.ofText_standard [PatternEngine] {text : String} {d : Dataset}
    (h : Dataset.ofText text = .ok d) : d.Built :=
  .ofText (fun _ => Json.distinct_of_ofText?) h

end RecordQuery
