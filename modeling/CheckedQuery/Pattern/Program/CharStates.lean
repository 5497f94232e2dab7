import CheckedQuery.Pattern.Program.Meter
import CheckedQuery.Unicode.Utf8
import Std.Data.HashMap

/-!
# States for characters

One character of a set takes several states, since it has several bytes.  Equal
states are shared as long as they are remembered: each has a place that its hash
decides, and a later state takes the place of an earlier one.
-/

namespace CheckedQuery.Pattern

/-- One step of the hash of a list of numbers. -/
def mix (hash value : UInt64) : UInt64 :=
  (hash ^^^ value) * 1099511628211

/-- The hash of no numbers. -/
def hashSeed : UInt64 :=
  14695981039346656037

/-- The states that are remembered, with what they are remembered for. -/
structure Memory (κ : Type) where
  places : Std.HashMap Nat (κ × Nat)

namespace Memory

variable {κ : Type}

def empty : Memory κ :=
  { places := ∅ }

/-- The state for a key, if it still has its place. -/
def find? [DecidableEq κ] (memory : Memory κ) (place : Nat) (key : κ) : Option Nat :=
  match memory.places[place]? with
  | some (other, state) => if other = key then some state else none
  | none => none

def store (memory : Memory κ) (place : Nat) (key : κ) (state : Nat) : Memory κ :=
  { places := memory.places.insert place (key, state) }

end Memory

/-! ## Reading forward -/

/-- A byte span and the state behind it. -/
structure Transition where
  bytes : Unicode.ByteSpan
  next : Nat
  deriving DecidableEq

/-- The place of a list of transitions. -/
def placeOfTransitions (transitions : List Transition) : Nat :=
  let hash := transitions.foldl (fun hash transition =>
    mix (mix (mix hash transition.bytes.first.toUInt64) transition.bytes.last.toUInt64)
      transition.next.toUInt64) hashSeed
  hash.toNat % 10000

/-- States for the sequences of a set, in a program that reads forward. -/
structure Forward where
  meter : Meter
  memory : Memory (List Transition)

namespace Forward

/-- The state with these transitions, which is added if there is none. -/
def stateFor (forward : Forward) (transitions : List Transition) : Forward × Nat :=
  let place := placeOfTransitions transitions
  match forward.memory.find? place transitions with
  | some state => (forward, state)
  | none =>
      let state := forward.meter.states
      ({ meter := forward.meter.addSpans transitions.length
         memory := forward.memory.store place transitions state }, state)

/-- Add the states for sequences of at most `depth` byte spans that go on to the
state `target`.  Sequences with the same first span share a transition. -/
def addSequences (target : Nat) :
    (depth : Nat) → List (List Unicode.ByteSpan) → Forward → Forward × Nat
  | 0, _, forward => (forward, target)
  | depth + 1, sequences, forward =>
      let groups := sequences.splitBy fun left right => left.head? == right.head?
      let (forward, transitions) := groups.foldl
        (fun (state : Forward × List Transition) group =>
          match group with
          | (bytes :: []) :: _ =>
              (state.1, { bytes := bytes, next := target } :: state.2)
          | (bytes :: _ :: _) :: _ =>
              let (forward, next) :=
                addSequences target depth (group.map List.tail) state.1
              (forward, { bytes := bytes, next := next } :: state.2)
          | _ => state)
        (forward, [])
      forward.stateFor transitions.reverse

end Forward

/-- One character of a set, in a program that reads forward. -/
def addForwardChar (sequences : List (List Unicode.ByteSpan)) (meter : Meter) : Meter :=
  let target := meter.states
  (Forward.addSequences target 4 sequences
    { meter := meter.addStates 1, memory := .empty }).1.meter

/-! ## Reading backward -/

/-- A byte span in front of a state. -/
structure Suffix where
  next : Nat
  bytes : Unicode.ByteSpan
  deriving DecidableEq

/-- The place of a suffix. -/
def placeOfSuffix (suffix : Suffix) : Nat :=
  let hash := mix (mix (mix hashSeed suffix.next.toUInt64) suffix.bytes.first.toUInt64)
    suffix.bytes.last.toUInt64
  hash.toNat % 1000

/-- States for the sequences of a set, in a program that reads backward. -/
structure Backward where
  meter : Meter
  memory : Memory Suffix

namespace Backward

/-- The state for a byte span in front of a state, which is added if there is
none. -/
def stateFor (backward : Backward) (suffix : Suffix) : Backward × Nat :=
  let place := placeOfSuffix suffix
  match backward.memory.find? place suffix with
  | some state => (backward, state)
  | none =>
      let state := backward.meter.states
      ({ meter := backward.meter.addStates 1
         memory := backward.memory.store place suffix state }, state)

/-- Add the states for one sequence, and an entry for it in the choice among
sequences. -/
def addSequence (target : Nat) (backward : Backward) (sequence : List Unicode.ByteSpan) :
    Backward :=
  let (added, _) := sequence.foldl
    (fun (state : Backward × Nat) bytes =>
      state.1.stateFor { next := state.2, bytes := bytes }) (backward, target)
  { added with meter := added.meter.addEntries 1 }

end Backward

/-- One character of a set, in a program that reads backward. -/
def addBackwardChar (sequences : List (List Unicode.ByteSpan)) (meter : Meter) : Meter :=
  let target := meter.states + 1
  (sequences.foldl (Backward.addSequence target)
    { meter := meter.addStates 2, memory := .empty }).meter

end CheckedQuery.Pattern
