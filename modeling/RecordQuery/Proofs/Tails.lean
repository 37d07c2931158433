/-
# What is left of a path

A path that has more segments than one can go on without its first one.  Its key is then
what follows the first segment and the separator, found by counting bytes and without
reading the key again.  For a path that was read from a key this is the same as reading the
rest of the key (`KeyPath.parse_of_tail?`): the first segment can not hold a separator or
overlap the one that ends it, so the key is cut there first, and the last piece, which may
name the lookup, is the same.  By induction every path that is left after some steps is what
its own key is read as.

Both the bytes of the key and the segments are positions that have to exist.  They do:
`KeyPath.tailByPosition` and `KeyPath.followByPosition` count positions and stop where one
does not exist, and they never stop (`KeyPath.tailByPosition_eq`,
`KeyPath.followByPosition_eq`).
-/

import RecordQuery.Proofs.Descent
import RecordQuery.Proofs.KeyGrammar

namespace RecordQuery

/-! ### Texts by bytes -/

/-- The text from a byte on, if a character begins at that byte or the text ends there. -/
def Text.fromByte? (text : String) (offset : Nat) : Option String :=
  if h : String.Pos.Raw.IsValid text ⟨offset⟩ then some (text.sliceFrom ⟨⟨offset⟩, h⟩).copy
  else none

/-- **The text from a byte on follows a beginning of so many bytes.** -/
theorem Text.fromByte?_eq_some_iff {text rest : String} {offset : Nat} :
    fromByte? text offset = some rest ↔
      ∃ before, text = before ++ rest ∧ before.utf8ByteSize = offset := by
  rw [fromByte?, Option.dite_none_right_eq_some]
  constructor
  · rintro ⟨hvalid, hrest⟩
    have hsplits := String.Pos.splits (⟨⟨offset⟩, hvalid⟩ : text.Pos)
    rw [Option.some.inj hrest] at hsplits
    have hoffset := congrArg String.Pos.Raw.byteIdx hsplits.offset_eq_rawEndPos
    exact ⟨_, hsplits.eq_append, hoffset.symm⟩
  · rintro ⟨before, rfl, rfl⟩
    have hvalid : String.Pos.Raw.IsValid (before ++ rest) ⟨before.utf8ByteSize⟩ :=
      String.Pos.Raw.isValid_iff_exists_append.2 ⟨before, rest, rfl, rfl⟩
    have hsplits : String.Pos.Splits (⟨_, hvalid⟩ : (before ++ rest).Pos) before rest := ⟨rfl, rfl⟩
    obtain ⟨-, hrest⟩ := (String.Pos.splits _).eq hsplits
    exact ⟨hvalid, congrArg some hrest⟩

example : Text.fromByte? "né__x" 5 = some "x" ∧ Text.fromByte? "né__x" 2 = none := by
  decide +kernel

namespace KeyPath

variable {registry : Registry} {key : String} {path tail : KeyPath}

/-! ### Reading the rest of a key -/

/-- A path has a tail just if it has several segments. -/
theorem tail?_isSome_iff : path.tail?.isSome ↔ 2 ≤ path.segments.length := by
  obtain ⟨key, head, _ | ⟨next, rest⟩, lookup⟩ := path <;> simp [tail?, segments]

/-- The tail has the other segments and the lookup. -/
theorem segments_eq_of_tail? (h : path.tail? = some tail) :
    path.segments = path.head :: tail.segments ∧ tail.lookup = path.lookup := by
  obtain ⟨hrest, hlookup⟩ := tail?_eq_some h
  exact ⟨congrArg (path.head :: ·) hrest, hlookup⟩

/-- A key that begins with the first segment and a separator goes on with the key of the
tail. -/
theorem key_eq_of_tail? (h : path.tail? = some tail) {rest : String}
    (hkey : path.key = path.head ++ Segments.separator ++ rest) : tail.key = rest := by
  obtain ⟨key, head, _ | ⟨next, names⟩, lookup⟩ := path
  · cases h
  · obtain rfl : key = head ++ Segments.separator ++ rest := hkey
    obtain rfl := Option.some.inj h
    have hdrop : (head ++ Segments.separator ++ rest).toList.drop
        (head.length + Segments.separator.length) = rest.toList := by
      rw [String.toList_append]
      refine List.drop_left' ?_
      rw [String.length_toList, String.length_append]
    exact (congrArg String.ofList hdrop).trans String.ofList_toList

/-- The first segment of several is the first piece of the key, and what is read from the
other pieces is the rest. -/
theorem exists_pieces_of_parse (h : parse registry key = .ok path)
    (htail : path.tail? = some tail) : ∃ pieces, pieces ≠ [] ∧
      Segments.split key = path.head :: pieces ∧
        lookupOf registry pieces = (tail.segments, tail.lookup) := by
  obtain ⟨hsegments, hlookup⟩ := segments_eq_of_tail? htail
  obtain ⟨-, hread, -⟩ := parse_eq_ok_iff.1 h
  obtain ⟨first, pieces, hsplit⟩ := List.exists_cons_of_ne_nil (Segments.split_ne_nil key)
  have hne : pieces ≠ [] := by
    rintro rfl
    rw [hsplit, hsegments, lookupOf] at hread
    split at hread <;> simp [segments] at hread
  rw [hsplit, ← List.singleton_append, lookupOf_append [first] hne, hsegments, ← hlookup] at hread
  obtain ⟨hnames, hfound⟩ := Prod.mk.inj hread
  obtain ⟨rfl, hrest⟩ := List.cons.inj hnames
  exact ⟨pieces, hne, hsplit, Prod.ext hrest hfound⟩

/-- **Dropping the first segment of a path is reading the rest of its key.** -/
theorem parse_of_tail? (h : parse registry key = .ok path) (htail : path.tail? = some tail) :
    key = path.head ++ Segments.separator ++ tail.key ∧ parse registry tail.key = .ok tail := by
  obtain ⟨pieces, hne, hsplit, hread⟩ := exists_pieces_of_parse h htail
  obtain ⟨hkey, -, hnonempty⟩ := parse_eq_ok_iff.1 h
  obtain ⟨hsegments, -⟩ := segments_eq_of_tail? htail
  rw [hsegments, List.forall_mem_cons] at hnonempty
  obtain ⟨hhead, hnames⟩ := hnonempty
  obtain ⟨piece, more, rfl⟩ := List.exists_cons_of_ne_nil hne
  have hinner : path.head ∈ (Segments.split key).dropLast := by
    rw [hsplit]
    exact List.mem_cons_self
  have hspellable : Segments.Spellable path.head :=
    ⟨hhead, Segments.isSplit_of_mem_split (hsplit ▸ List.mem_cons_self),
      Segments.getLast?_ne_of_mem_dropLast_split hinner⟩
  have hjoin : key = path.head ++ Segments.separator ++ Segments.join (piece :: more) := by
    rw [← Segments.join_cons_cons, ← hsplit, Segments.join_split]
  rw [← key_eq_of_tail? htail (hkey.trans hjoin)] at hjoin
  refine ⟨hjoin, parse_eq_ok_iff.2 ⟨rfl, ?_, hnames⟩⟩
  rw [hjoin, Segments.split_append hspellable] at hsplit
  rw [(List.cons.inj hsplit).2, hread]

/-! ### Tails of tails -/

/-- What is left of a path after some steps. -/
def tailAfter? : Nat → KeyPath → Option KeyPath
  | 0, path => some path
  | steps + 1, path => (path.tailAfter? steps).bind tail?

/-- **Every tail is what its own key is read as,** and has the segments that are left and the
lookup of the path. -/
theorem parse_of_tailAfter? (h : parse registry key = .ok path) {steps : Nat}
    (htail : path.tailAfter? steps = some tail) : parse registry tail.key = .ok tail ∧
      tail.segments = path.segments.drop steps ∧ tail.lookup = path.lookup := by
  induction steps generalizing tail with
  | zero =>
    obtain rfl : path = tail := Option.some.inj htail
    obtain ⟨hkey, -⟩ := parse_eq_ok_iff.1 h
    exact ⟨hkey ▸ h, rfl, rfl⟩
  | succ steps ih =>
    obtain ⟨between, hbetween, htail⟩ := Option.bind_eq_some_iff.1 htail
    obtain ⟨hparse, hdrop, hlookup⟩ := ih hbetween
    obtain ⟨hsegments, hsame⟩ := segments_eq_of_tail? htail
    refine ⟨(parse_of_tail? hparse htail).2, ?_, hsame.trans hlookup⟩
    rw [← List.tail_drop, ← hdrop, hsegments, List.tail_cons]

/-- **A path has as many tails as segments,** itself included. -/
theorem isSome_tailAfter?_iff (path : KeyPath) (steps : Nat) :
    (path.tailAfter? steps).isSome ↔ steps < path.segments.length := by
  have hlength : ∀ steps tail, path.tailAfter? steps = some tail →
      tail.segments.length + steps = path.segments.length := by
    intro steps
    induction steps with
    | zero =>
      intro tail htail
      rw [Option.some.inj htail, Nat.add_zero]
    | succ steps ih =>
      intro tail htail
      obtain ⟨between, hbetween, htail⟩ := Option.bind_eq_some_iff.1 htail
      have hbefore := ih between hbetween
      rw [(segments_eq_of_tail? htail).1, List.length_cons] at hbefore
      omega
  induction steps with
  | zero => simp [tailAfter?, segments]
  | succ steps ih =>
    rw [tailAfter?]
    cases hbetween : path.tailAfter? steps with
    | none =>
      rw [hbetween] at ih
      have hle : path.segments.length ≤ steps := by simpa using ih
      exact iff_of_false Bool.false_ne_true (by omega)
    | some between =>
      have hbefore := hlength steps between hbetween
      rw [Option.bind_some, tail?_isSome_iff]
      omega

/-! ### Positions -/

/-- The tail of a path, computed with positions: the segments without the one at 0, and the
key from the byte on at which the first segment and the separator end.  The result is `none`
if one of these positions does not exist. -/
def tailByPosition (path : KeyPath) : Option (Option KeyPath) :=
  if path.segments.length < 2 then some none
  else do
    let first ← path.segments[0]?
    let key ← Text.fromByte? path.key (first.utf8ByteSize + Segments.separator.utf8ByteSize)
    match path.segments.drop 1 with
    | [] => none
    | next :: rest => return some ⟨key, next, rest, path.lookup⟩

/-- **No position is missed when the first segment of a path is dropped,** if the path was
read from a key. -/
theorem tailByPosition_eq (h : parse registry key = .ok path) :
    path.tailByPosition = some path.tail? := by
  cases htail : path.tail? with
  | none =>
    have hshort : path.segments.length < 2 := by
      rw [← Nat.not_le, ← tail?_isSome_iff, htail]
      exact Bool.false_ne_true
    rw [tailByPosition, if_pos hshort]
  | some tail =>
    obtain ⟨hkey, -⟩ := parse_of_tail? h htail
    obtain ⟨rfl, -⟩ := parse_eq_ok_iff.1 h
    obtain ⟨hsegments, hlookup⟩ := segments_eq_of_tail? htail
    have hlong : ¬path.segments.length < 2 := by
      rw [Nat.not_lt, ← tail?_isSome_iff, htail]
      rfl
    have hrest : Text.fromByte? path.key
        (path.head.utf8ByteSize + Segments.separator.utf8ByteSize) = some tail.key :=
      Text.fromByte?_eq_some_iff.2 ⟨_, hkey, String.utf8ByteSize_append⟩
    rw [tailByPosition, if_neg hlong, hsegments, List.getElem?_cons_zero]
    simp only [Option.bind_eq_bind, Option.bind_some, hrest, List.drop_succ_cons, List.drop_zero]
    rw [← hlookup]
    rfl

/-- A loop over members in which no position is missed is a scan of the members. -/
theorem foldlM_eq_anyMember {α : Type} {test : α → Except LookupError Bool}
    {test' : α → ExceptT LookupError Option Bool} {as : List α}
    (h : ∀ a ∈ as, test' a = ExceptT.mk (some (test a))) (b : Bool) :
    as.foldlM (fun any a => return any || (← test' a)) b =
      ExceptT.mk (some ((anyMember test as).map (b || ·))) := by
  induction as generalizing b with
  | nil => exact congrArg (fun b => ExceptT.mk (some (Except.ok b))) (Bool.or_false b).symm
  | cons a as ih =>
    obtain ⟨ha, has⟩ := List.forall_mem_cons.1 h
    rw [List.foldlM_cons, ha, anyMember]
    cases test a with
    | error e => rfl
    | ok first =>
      refine (ih has (b || first)).trans (congrArg (fun r => ExceptT.mk (some r)) ?_)
      cases anyMember test as with
      | error e => rfl
      | ok rest => exact congrArg Except.ok (Bool.or_assoc b first rest)

section

variable [PatternEngine]

/-- What is found in the field of a node whose name stands at a position, given how the path
is followed from the nodes of that field. -/
def enterByPosition (path : KeyPath) (pattern : Option Pattern) (operand : Operand)
    (depth : Nat) (name : String) (below : Node → ExceptT LookupError Option Bool) (n : Node) :
    ExceptT LookupError Option Bool := do
  let field ← n.get name
  if depth + 1 = path.segments.length then path.arrive pattern operand field.content
  else
    match field.content with
    | .scalar _ | .array _ => do
      let next ← ExceptT.lift path.segments[depth + 1]?
      throw (.invalidPath path.key (.valueField name next))
    | .node child => below child
    | .dataset members => members.foldlM (fun any child => return any || (← below child)) false

/-- Follows a path from a node, given the position of the next segment and not the segments
that are left.  A computation without a result, neither an answer nor an error, is one in
which a position does not exist. -/
def followByPosition (path : KeyPath) (pattern : Option Pattern) (operand : Operand)
    (depth : Nat) (n : Node) : ExceptT LookupError Option Bool :=
  match _ : path.segments[depth]? with
  | none => ExceptT.lift none
  | some name => path.enterByPosition pattern operand depth name
      (path.followByPosition pattern operand (depth + 1)) n
termination_by path.segments.length - depth
decreasing_by
  obtain ⟨hdepth, -⟩ := List.getElem?_eq_some_iff.1 ‹_ = some name›
  omega

section

variable (path : KeyPath) (pattern : Option Pattern) (operand : Operand) {depth : Nat}
  {name next : String} {rest : List String}

/-- At the last position the field is looked at. -/
theorem enterByPosition_last (hlast : depth + 1 = path.segments.length)
    (below : Node → ExceptT LookupError Option Bool) (n : Node) :
    path.enterByPosition pattern operand depth name below n =
      ExceptT.mk (some (path.follow pattern operand name [] n)) := by
  rw [enterByPosition, follow]
  simp only [if_pos hlast]
  cases n.get name <;> rfl

/-- Before it, the path goes on from the nodes of the field. -/
theorem enterByPosition_next (hnext : path.segments[depth + 1]? = some next)
    {below : Node → ExceptT LookupError Option Bool}
    (hbelow : ∀ child, below child =
      ExceptT.mk (some (path.follow pattern operand next rest child))) (n : Node) :
    path.enterByPosition pattern operand depth name below n =
      ExceptT.mk (some (path.follow pattern operand name (next :: rest) n)) := by
  obtain ⟨hlt, -⟩ := List.getElem?_eq_some_iff.1 hnext
  rw [enterByPosition, follow]
  simp only [if_neg (Nat.ne_of_lt hlt), hnext]
  cases n.get name with
  | error e => rfl
  | ok field =>
    obtain ⟨_, content⟩ := field
    cases content with
    | scalar s => rfl
    | array items => rfl
    | node child => exact hbelow child
    | dataset members =>
      refine (foldlM_eq_anyMember (fun child _ => hbelow child) false).trans ?_
      cases hany : anyMember (path.follow pattern operand next rest) members <;>
        simp [bind, Except.bind, Except.map, hany]

/-- A segment at the position is entered. -/
theorem followByPosition_of_getElem? (hname : path.segments[depth]? = some name) (n : Node) :
    path.followByPosition pattern operand depth n =
      path.enterByPosition pattern operand depth name
        (path.followByPosition pattern operand (depth + 1)) n := by
  rw [followByPosition]
  split
  · simp_all
  · rename_i found hfound
    rw [Option.some.inj (hname.symm.trans hfound)]

/-- **No position is missed when a path is followed,** on any node.  The induction is on the
segments that are left. -/
theorem followByPosition_eq (hrest : path.segments.drop depth = name :: rest) (n : Node) :
    path.followByPosition pattern operand depth n =
      ExceptT.mk (some (path.follow pattern operand name rest n)) := by
  have hname : path.segments[depth]? = some name := by
    rw [← List.head?_drop, hrest, List.head?_cons]
  have hdrop : path.segments.drop (depth + 1) = rest := by
    rw [← List.tail_drop, hrest, List.tail_cons]
  induction rest generalizing depth name n with
  | nil =>
    have hlast : depth + 1 = path.segments.length := by
      have hlength := congrArg List.length hrest
      rw [List.length_drop, List.length_singleton] at hlength
      omega
    rw [path.followByPosition_of_getElem? pattern operand hname]
    exact path.enterByPosition_last pattern operand hlast _ n
  | cons next rest ih =>
    have hnext : path.segments[depth + 1]? = some next := by
      rw [← List.head?_drop, hdrop, List.head?_cons]
    rw [path.followByPosition_of_getElem? pattern operand hname]
    refine path.enterByPosition_next pattern operand hnext (fun child => ?_) n
    exact ih hdrop child hnext (by rw [← List.tail_drop, hdrop, List.tail_cons])

end

/-- **Dropping the first segment of a path that was read from a key is reading the rest of
the key,** and never misses a position.

* A path with several segments has a tail.  The key goes on after the first segment and a
  separator, where a character begins; from there on it is read as the tail.
* A path has one tail less than segments, one after the other.
* All of this holds of the tails too: each is what its own key is read as, its segments are
  those of the path without the first ones, and it has the lookup of the path.
* Neither for the path nor for its tails is a byte of the key or a segment looked for that
  does not exist: when the next tail is taken, when the first segment is named, and when the
  path is followed from any node.  There is a first segment to name because reading a key
  refuses those that leave no segment once the lookup is taken off. -/
theorem parse_tail (h : parse registry key = .ok path) :
    (2 ≤ path.segments.length → ∃ rest tail,
      key = path.head ++ Segments.separator ++ rest ∧
      Text.fromByte? key (path.head.utf8ByteSize + Segments.separator.utf8ByteSize) = some rest ∧
        path.tail? = some tail ∧ tail.key = rest ∧ parse registry rest = .ok tail) ∧
    (∀ steps, (path.tailAfter? steps).isSome ↔ steps < path.segments.length) ∧
    ∀ steps tail, path.tailAfter? steps = some tail →
      (parse registry tail.key = .ok tail ∧ tail.segments = path.segments.drop steps ∧
        tail.lookup = path.lookup) ∧
      tail.tailByPosition = some tail.tail? ∧
      (lookupOf registry (Segments.split tail.key)).1[0]? = some tail.head ∧
      ∀ pattern operand n, tail.followByPosition pattern operand 0 n =
        ExceptT.mk (some (tail.resolveWith pattern operand n)) := by
  refine ⟨fun hlong => ?_, path.isSome_tailAfter?_iff, fun steps tail htail => ?_⟩
  · obtain ⟨tail, htail⟩ := Option.isSome_iff_exists.1 (tail?_isSome_iff.2 hlong)
    obtain ⟨hkey, hparse⟩ := parse_of_tail? h htail
    exact ⟨tail.key, tail, hkey, Text.fromByte?_eq_some_iff.2 ⟨_, hkey, String.utf8ByteSize_append⟩,
      htail, rfl, hparse⟩
  · obtain ⟨hparse, hrest⟩ := parse_of_tailAfter? h htail
    obtain ⟨-, hread, -⟩ := parse_eq_ok_iff.1 hparse
    have hfirst : (lookupOf registry (Segments.split tail.key)).1[0]? = some tail.head := by
      rw [hread]
      rfl
    have hall : tail.segments.drop 0 = tail.head :: tail.rest := rfl
    exact ⟨⟨hparse, hrest⟩, tailByPosition_eq hparse, hfirst, fun pattern operand n =>
      tail.followByPosition_eq pattern operand hall n⟩

end

/-- The key `né___títre__gt`, in which the first segment ends at its third byte. -/
def titreAbove : KeyPath := ⟨"né___títre__gt", "né", ["_títre"], .builtin (.order .greater)⟩

/-- The hypothesis is satisfiable.  The third underscore in a row belongs to the second
segment, and reading the rest of the key finds it there. -/
theorem parse_tail_titreAbove :
    parse .builtin titreAbove.key = .ok titreAbove ∧ 2 ≤ titreAbove.segments.length ∧
    (∃ tail, titreAbove.tail? = some tail ∧ tail.key = "_títre__gt" ∧
      parse .builtin "_títre__gt" = .ok tail) ∧
    (titreAbove.tailAfter? 1).isSome ∧ ¬(titreAbove.tailAfter? 2).isSome ∧
    titreAbove.followByPosition none (.scalar .null) 0 (.ofContents [("né", .scalar .null)]) =
      ExceptT.mk (some (.error (.invalidPath "né___títre__gt" (.valueField "né" "_títre")))) := by
  have hparse : parse .builtin titreAbove.key = .ok titreAbove := by cbv
  have hlong : 2 ≤ titreAbove.segments.length := by decide
  obtain ⟨htail, hcount, hpositions⟩ := parse_tail hparse
  obtain ⟨rest, tail, hkey, hrest, htail, htailKey, hread⟩ := htail hlong
  obtain rfl : rest = "_títre__gt" := by
    have hbytes : Text.fromByte? titreAbove.key
        (titreAbove.head.utf8ByteSize + Segments.separator.utf8ByteSize) =
          some "_títre__gt" := by decide +kernel
    exact Option.some.inj (hrest.symm.trans hbytes)
  obtain ⟨-, -, -, hfollow⟩ := hpositions 0 titreAbove rfl
  exact ⟨hparse, hlong, ⟨tail, htail, htailKey, hread⟩, (hcount 1).2 (by decide),
    fun h => absurd ((hcount 2).1 h) (by decide), hfollow none (.scalar .null) _⟩

end KeyPath
end RecordQuery
