import ConfigSchema.Pattern.Automaton.Meter
import ConfigSchema.Pattern.Automaton.Octets
import Std.Data.TreeMap.Basic

/-!
# States of a class

The states that read a character of a class byte by byte. States that lead to the same are built
once, as long as they are remembered: a state has one slot of a memory, and a later one with the
same slot takes its place.

## Main definitions

- `Memory` — the states that are remembered
- `growClass` — the growth of an automaton by the states of a class

## Design notes

Which slot a state has depends on the numbers of the states that it leads to. The same class can
therefore take more states in one place than in another.
-/

namespace ConfigSchema.Pattern

open ConfigSchema.Text (CharRanges)

/-- The states that are remembered: by its slot, what a state leads to and its number. -/
structure Memory where
  meter : Meter
  slots : Std.TreeMap Nat (List Nat × Nat) := {}

/-- A number of 64 bits that depends on all numbers of a list. -/
def fingerprint (key : List Nat) : UInt64 :=
  key.foldl (fun code n => (code ^^^ UInt64.ofNat n) * 1099511628211) 14695981039346656037

/-- The state that leads to `key`: one that is remembered, or a new one. -/
def Memory.state (slotCount links : Nat) (key : List Nat) (memory : Memory) :
    Option (Nat × Memory) := do
  let slot := (fingerprint key).toNat % slotCount
  let new : Option (Nat × Memory) := do
    let meter ← memory.meter.grow 1 links
    let number := memory.meter.states
    return (number, ⟨meter, memory.slots.insert slot (key, number)⟩)
  match memory.slots[slot]? with
  | some (known, number) => if known == key then return (number, memory) else new
  | none => new

/-! ## Forward -/

/-- Sequences by what they begin with, as far as neighbours begin with the same. -/
def groupHeads : List (List (Nat × Nat)) → List ((Nat × Nat) × List (List (Nat × Nat)))
  | [] => []
  | [] :: rest => groupHeads rest
  | (head :: tail) :: rest =>
      match groupHeads rest with
      | (next, tails) :: more =>
          if next == head then (head, (tail :: tails)) :: more
          else (head, [tail]) :: (next, tails) :: more
      | [] => [(head, [tail])]

/-- The state that reads one of some sequences and goes on to `target`. A state is built after those
that it leads to. No character has more than four bytes, which is the `depth`. -/
def sequencesState (target : Nat) : (depth : Nat) → List (List (Nat × Nat)) → Memory →
    Option (Nat × Memory)
  | 0, _, memory => some (target, memory)
  | depth + 1, sequences, memory =>
      match groupHeads sequences with
      | [] => some (target, memory)
      | groups => do
          let (key, memory) ← groups.foldlM (fun (key, memory) ((low, high), tails) => do
            let (next, memory) ← sequencesState target depth tails memory
            return (next :: high :: low :: key, memory)) ([], memory)
          memory.state 10000 (8 * groups.length) key.reverse

/-- The states of a class from the first byte to the last. -/
def growForward (set : CharRanges) (meter : Meter) : Option Meter := do
  let memory : Memory := { meter := ← meter.grow 1 0 }
  let (_, memory) ← sequencesState meter.states 4 (set.flatMap octetRanges) memory
  return memory.meter

/-! ## Backward -/

/-- The states that read one sequence from its last byte to the first, which leads to `target`. -/
def growSequence (target : Nat) (memory : Memory) (sequence : List (Nat × Nat)) :
    Option Memory := do
  let (_, memory) ← sequence.foldlM (fun (next, memory) (low, high) =>
    memory.state 1000 0 [next, low, high]) (target, memory)
  return { memory with meter := ← memory.meter.grow 0 4 }

/-- The states of a class from the last byte to the first. -/
def growBackward (set : CharRanges) (meter : Meter) : Option Meter := do
  let memory : Memory := { meter := ← meter.grow 2 0 }
  let memory ← (set.flatMap octetRanges).foldlM (growSequence (meter.states + 1)) memory
  return memory.meter

/-- The states of a class. One of ASCII needs no more than its ranges. -/
def growClass (direction : Direction) (set : CharRanges) (meter : Meter) : Option Meter :=
  if set.all (·.2 < 0x80) then meter.grow 2 (8 * set.length)
  else
    match direction with
    | .forward => growForward set meter
    | .backward => growBackward set meter

end ConfigSchema.Pattern
