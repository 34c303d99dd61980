/-!
# The size of automata

A pattern is refused if an automaton that searches for it takes too many bytes. Building one is
followed here only so far as to tell how many states it has and how many bytes these take.

## Main definitions

- `Direction` — the direction in which an automaton reads a text
- `Meter` — the states so far and their bytes
- `Meter.grow` — more states, unless they take too many bytes
- `Meter.copies` — the growth of a part that is built several times
-/

namespace ConfigSchema.Pattern

/-- The direction in which an automaton reads a text. -/
inductive Direction where
  | forward
  | backward
deriving DecidableEq, Repr

/-- The states of an automaton. A state is known by the number of those before it. -/
structure Meter where
  states : Nat := 0
  /-- The bytes that take what a state leads to, where that is not a single state. -/
  links : Nat := 0
deriving DecidableEq, Repr

namespace Meter

/-- How many bytes an automaton may take. -/
def maxBytes : Nat := 10 * 1024 * 1024

/-- The bytes of all states. -/
def bytes (meter : Meter) : Nat := 32 * meter.states + meter.links

/-- More states and the bytes of their links. -/
def grow (states links : Nat) (meter : Meter) : Option Meter :=
  let grown : Meter := ⟨meter.states + states, meter.links + links⟩
  if grown.bytes ≤ maxBytes then some grown else none

/-- The growth of a part that is built `count` times. -/
def copies (part : Meter → Option Meter) : (count : Nat) → Meter → Option Meter
  | 0, meter => some meter
  | count + 1, meter => do copies part count (← part meter)

end Meter

end ConfigSchema.Pattern
