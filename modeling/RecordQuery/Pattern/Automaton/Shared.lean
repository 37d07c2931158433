/-
# Classes of characters in an automaton

A class is read byte by byte, so it becomes a small automaton of its own.  States
that go on alike are shared as far as they are remembered: a table has a slot for
each value of a hash, and what comes later takes the slot of what came before.

Reading forward, the byte sequences of a class form a tree, and its states are
made from the leaves inward.  Reading backward, a sequence is a row of plain
states, and rows share their end.
-/

import RecordQuery.Pattern.Automaton.Piece
import RecordQuery.Pattern.Bytes
import RecordQuery.Pattern.CharClass
import Std.Data.HashMap

namespace RecordQuery
namespace Pattern

/-! ### What is remembered -/

/-- Mixes a number into a hash. -/
def mix (hash : UInt64) (n : Nat) : UInt64 := (hash ^^^ n.toUInt64) * 1099511628211

/-- The hash of nothing. -/
def emptyHash : UInt64 := 14695981039346656037

/-- States by what they were made for, one in each slot. -/
structure Slots (κ : Type) where
  states : Std.HashMap UInt64 (κ × Nat)

namespace Slots

variable {κ : Type}

/-- Nothing remembered. -/
def empty : Slots κ := ⟨∅⟩

/-- The state made for a key, if it is still in its slot. -/
def get? [BEq κ] (slots : Slots κ) (slot : UInt64) (key : κ) : Option Nat :=
  match slots.states[slot]? with
  | some (k, state) => if k == key then some state else none
  | none => none

/-- Remembers a state. -/
def put (slots : Slots κ) (slot : UInt64) (key : κ) (state : Nat) : Slots κ :=
  ⟨slots.states.insert slot (key, state)⟩

end Slots

/-- The size so far, and the states that can be shared. -/
structure Shared (κ : Type) where
  size : Size
  slots : Slots κ

/-- The state for a key: the one remembered in its slot, or a new one. -/
def Shared.state? {κ : Type} [BEq κ] (shared : Shared κ) (slot : UInt64) (key : κ)
    (extra : Nat) : Option (Shared κ × Nat) :=
  match shared.slots.get? slot key with
  | some state => some (shared, state)
  | none => do
    let state := shared.size.states
    return (⟨← shared.size.grow? 1 extra, shared.slots.put slot key state⟩, state)

/-! ### Forward -/

/-- A way on for a range of bytes. -/
structure Transition where
  lo : Nat
  hi : Nat
  target : Nat
  deriving DecidableEq, Repr

/-- The ways on from a state, the last first. -/
abbrev Transitions := List Transition

/-- The slot of a state, of ten thousand. -/
def Transitions.slot (ts : Transitions) : UInt64 :=
  ts.foldr (fun t hash => mix (mix (mix hash t.lo) t.hi) t.target) emptyHash % 10000

/-- A state that is still being made: its ways on, and the range of bytes for one
more, whose target is not made yet. -/
structure OpenState where
  made : Transitions
  last : Option ByteRange

/-- The ways on from a state, given the target of the last one. -/
def OpenState.close (state : OpenState) (target : Nat) : Transitions :=
  match state.last with
  | none => state.made
  | some (lo, hi) => ⟨lo, hi, target⟩ :: state.made

/-- Makes the states of a branch that is still open, the inmost first; it leads to
`target`. -/
def closeAll? (target : Nat) :
    List OpenState → Shared Transitions → Option (Shared Transitions × Nat)
  | [], shared => some (shared, target)
  | state :: inner, shared => do
    let (shared, next) ← closeAll? target inner shared
    let ts := state.close next
    shared.state? ts.slot ts (Size.rangeBytes ts.length)

/-- Adds a sequence to the open branch.  As far as the two start alike the branch
stays open; what it has beyond that is made. -/
def addSequence? (target : Nat) : List OpenState → List ByteRange → Shared Transitions →
    Option (Shared Transitions × List OpenState)
  | state :: inner, r :: rs, shared =>
    if state.last == some r then do
      let (shared, inner) ← addSequence? target inner rs shared
      return (shared, state :: inner)
    else do
      let (shared, next) ← closeAll? target inner shared
      return (shared, ⟨state.close next, some r⟩ :: rs.map fun r => ⟨[], some r⟩)
  | branch, _, shared => some (shared, branch)

/-- Adds sequences one after the other, and makes what is open at the end. -/
def addSequences? (target : Nat) : List (List ByteRange) → List OpenState →
    Shared Transitions → Option Size
  | [], branch, shared => do return (← closeAll? target branch shared).1.size
  | seq :: seqs, branch, shared => do
    let (shared, branch) ← addSequence? target branch seq shared
    addSequences? target seqs branch shared

/-- A class read forward: its end comes first. -/
def Piece.ofSequences (seqs : List (List ByteRange)) : Piece where
  build? size := do
    let target := size.states
    let size ← size.grow? 1 0
    return (← addSequences? target seqs [⟨[], none⟩] ⟨size, .empty⟩, .plain)

/-! ### Backward -/

/-- A plain state by the range of bytes that it takes and the state it leads to. -/
structure Link where
  next : Nat
  lo : Nat
  hi : Nat
  deriving DecidableEq, Repr

/-- The slot of a state, of a thousand. -/
def Link.slot (l : Link) : UInt64 :=
  mix (mix (mix emptyHash l.next) l.lo) l.hi % 1000

/-- The states that take a sequence, its last byte first, and then lead to
`next`. -/
def addLinks? : List ByteRange → Nat → Shared Link → Option (Shared Link)
  | [], _, shared => some shared
  | (lo, hi) :: rs, next, shared => do
    let link : Link := ⟨next, lo, hi⟩
    let (shared, state) ← shared.state? link.slot link 0
    addLinks? rs state shared

/-- Adds sequences one after the other, each with a branch of the fork. -/
def addRows? (target : Nat) : List (List ByteRange) → Shared Link → Option Size
  | [], shared => some shared.size
  | seq :: seqs, shared => do
    let shared ← addLinks? seq target shared
    addRows? target seqs { shared with size := ← shared.size.grow? 0 (Size.branchBytes 1) }

/-- A class read backward: a fork into a row for each sequence, and the end where
they meet. -/
def Piece.ofReversedSequences (seqs : List (List ByteRange)) : Piece where
  build? size := do
    let target := size.states + 1
    let size ← size.grow? 2 0
    return (← addRows? target seqs ⟨size, .empty⟩, .plain)

end Pattern
end RecordQuery
