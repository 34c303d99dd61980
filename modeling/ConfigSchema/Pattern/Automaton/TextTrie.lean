import ConfigSchema.Pattern.Automaton.Meter

/-!
# States of several literals

Literals that are each other's alternatives share the states of what they begin with. A literal that
ends where another one goes on ends a section of the state there, because the literals before it are
tried first.

## Main definitions

- `growLiterals` — the growth of an automaton by the states of several literals
-/

namespace ConfigSchema.Pattern

/-- What the literals that share a beginning do after it. -/
structure Fork where
  /-- How many literals end there. -/
  endings : Nat := 0
  /-- The sections between endings, the last first: what follows each first byte. -/
  sections : List (List (Nat × List (List Nat))) := [[]]

namespace Fork

/-- Adds what follows a byte. -/
def addTail (byte : Nat) (tail : List Nat) :
    List (Nat × List (List Nat)) → List (Nat × List (List Nat))
  | [] => [(byte, [tail])]
  | (b, tails) :: rest =>
      if b == byte then (b, tails ++ [tail]) :: rest else (b, tails) :: addTail byte tail rest

/-- Whether no literal goes on. -/
def isLeaf (fork : Fork) : Bool := fork.sections.all (·.isEmpty)

/-- Adds what follows the beginning. A further ending changes nothing if no literal goes on. -/
def add (fork : Fork) : List Nat → Fork
  | [] =>
      if fork.isLeaf && fork.endings != 0 then fork
      else ⟨fork.endings + 1, [] :: fork.sections⟩
  | byte :: tail =>
      match fork.sections with
      | [] => { fork with sections := [[(byte, [tail])]] }
      | last :: before => { fork with sections := addTail byte tail last :: before }

/-- The fork of some literals. -/
def ofLiterals (literals : List (List Nat)) : Fork := literals.foldl add {}

end Fork

/-- The states after a beginning that literals share: one for each section that goes on, and one
that chooses among them and the endings. No literal is longer than `depth`. -/
def growFork : (depth : Nat) → List (List Nat) → Meter → Option Meter
  | 0, _, meter => some meter
  | depth + 1, literals, meter =>
      let fork := Fork.ofLiterals literals
      if fork.isLeaf then some meter
      else do
        let sections := fork.sections.filter (!·.isEmpty)
        let meter ← sections.foldlM (fun meter heads => do
          let meter ← heads.foldlM (fun meter head => growFork depth head.2 meter) meter
          meter.grow 1 (if heads.length == 1 then 0 else 8 * heads.length)) meter
        meter.grow 1 (4 * (sections.length + fork.endings))

/-- The states of literals that are each other's alternatives, and of their common end. -/
def growLiterals (direction : Direction) (literals : List (List Nat)) (meter : Meter) :
    Option Meter := do
  let literals := match direction with
    | .forward => literals
    | .backward => literals.map List.reverse
  let depth := literals.foldl (fun depth literal => max depth literal.length) 0
  growFork (depth + 1) literals (← meter.grow 1 0)

end ConfigSchema.Pattern
