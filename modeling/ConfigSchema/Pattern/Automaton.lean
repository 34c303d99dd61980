import ConfigSchema.Pattern.Automaton.ClassStates
import ConfigSchema.Pattern.Automaton.TextTrie
import ConfigSchema.Pattern.Regex.Shape

/-!
# Automata of expressions

The automata that search for an expression: one reads forward and notes groups, the other reads
backward from where a match ends. An expression is usable if both keep within the bounds.

## Main definitions

- `Regex.grow` — the growth of an automaton by the states of an expression
- `Regex.automaton?` — the whole automaton of an expression
- `Regex.fits` — whether both automata keep within the bounds
-/

namespace ConfigSchema.Pattern

/-- The place of an expression among alternatives. -/
inductive Rank where
  /-- It is no alternative, or the first. -/
  | first
  | second
  | later
deriving DecidableEq, Repr

namespace Rank

/-- The place after another one. -/
def next : Rank → Rank
  | first => second
  | second => later
  | later => later

/-- The states that tie an alternative to those before it: one that chooses and one where all of
them end are built after the second. -/
def tie : Rank → Meter → Option Meter
  | first, meter => some meter
  | second, meter => meter.grow 2 8
  | later, meter => meter.grow 0 4

end Rank

namespace Regex

/-- The literals of a choice of nothing else. -/
def literals? : Regex → Option (List (List Nat))
  | literal cs => some [cs.flatMap octets]
  | alt (literal cs) right => right.literals?.map (cs.flatMap octets :: ·)
  | _ => none

/-- The states of an expression at a place among alternatives. -/
def grow (direction : Direction) : Regex → Rank → Meter → Option Meter
  | empty, rank, meter => do rank.tie (← meter.grow 1 0)
  | literal cs, rank, meter => do rank.tie (← meter.grow (cs.flatMap octets).length 0)
  | chars set, rank, meter => do rank.tie (← growClass direction set meter)
  | look _, rank, meter => do rank.tie (← meter.grow 1 0)
  | group body, rank, meter => do
      match direction with
      | .forward => rank.tie (← (← body.grow direction .first (← meter.grow 1 0)).grow 1 0)
      | .backward => rank.tie (← body.grow direction .first meter)
  | seq first second, rank, meter => do
      match direction with
      | .forward => rank.tie (← second.grow direction .first (← first.grow direction .first meter))
      | .backward => rank.tie (← first.grow direction .first (← second.grow direction .first meter))
  | alt left right, rank, meter =>
      let rest (meter : Meter) : Option Meter := do
        right.grow direction rank.next (← rank.tie (← left.grow direction .first meter))
      match rank with
      | .first =>
          match (alt left right).literals? with
          | some literals => growLiterals direction literals meter
          | none => rest meter
      | _ => rest meter
  | times least most? _ body, rank, meter => do
      let once := body.grow direction .first
      let optional (meter : Meter) : Option Meter := do once (← meter.grow 1 8)
      match least, most? with
      | 0, some 1 => rank.tie (← (← optional meter).grow 1 0)
      | 0, none =>
          if body.advances && !body.isHopeless then rank.tie (← optional meter)
          else rank.tie (← (← once meter).grow 3 16)
      | _, none => rank.tie (← (← Meter.copies once least meter).grow 1 8)
      | _, some most =>
          let meter ← if least == 0 then meter.grow 1 0 else Meter.copies once least meter
          if least == most then rank.tie meter
          else rank.tie (← Meter.copies optional (most - least) (← meter.grow 1 0))

/-- The whole automaton of an expression. Where a match can start anywhere it begins with states
that pass over what comes before. -/
def automaton? (direction : Direction) (r : Regex) : Option Meter := do
  match direction with
  | .forward =>
      let meter ← if r.startsAtText then Meter.grow 2 0 {} else Meter.grow 4 16 {}
      (← r.grow direction .first meter).grow 2 0
  | .backward =>
      let meter ← if r.endsAtText then Meter.grow 1 0 {} else Meter.grow 3 16 {}
      (← r.grow direction .first meter).grow 1 0

/-- Whether the automata of an expression keep within the bounds. -/
def fits (r : Regex) : Bool :=
  (r.automaton? .forward).isSome && (r.automaton? .backward).isSome

end Regex

end ConfigSchema.Pattern
