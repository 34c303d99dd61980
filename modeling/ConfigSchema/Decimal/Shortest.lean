/-!
# The shortest decimal of a binary number

Many decimals round to the same binary number. This module finds the one with the fewest digits,
and among those the nearest.

## Main definitions

- `Binary` — a positive binary number `m · 2 ^ q` of limited precision
- `Binary.lower`, `Binary.upper` — the ends of the interval of reals that round to it
- `Decimal` — a number of digits and a power of ten
- `Binary.shortest` — the shortest decimal in the interval

## Design notes

Everything is exact arithmetic on natural numbers. On the grid of decimals with a given last place,
if any point lies in the interval then so does one of the two neighbours of the number itself; so
two candidates per grid suffice.
-/

namespace ConfigSchema

/-- A positive binary number `m · 2 ^ q`, in quarters: the interval of reals that round to it has
the ends `lower` and `upper`, all three in units of `2 ^ (q - 2)`. -/
structure Binary where
  mantissa : Nat
  exponent : Int
  /-- Whether the next smaller number is only half as far away as the next greater. -/
  narrowBelow : Bool := false
deriving DecidableEq, Repr

/-- The number `digits · 10 ^ exponent`. -/
structure Decimal where
  digits : Nat
  exponent : Int
deriving DecidableEq, Repr

/-- Which of two decimals is chosen that are equally near. -/
inductive Tie where
  | up
  | even
deriving DecidableEq, Repr

namespace Binary

/-- The number itself, in quarters of its last place. -/
def quarters (b : Binary) : Nat := 4 * b.mantissa

/-- The least real that rounds to the number, in quarters of its last place. -/
def lower (b : Binary) : Nat := b.quarters - if b.narrowBelow then 1 else 2

/-- The greatest real that rounds to the number, in quarters of its last place. -/
def upper (b : Binary) : Nat := b.quarters + 2

/-- Whether the ends of the interval belong to it: they round to the even neighbour. -/
def closed (b : Binary) : Bool := b.mantissa % 2 == 0

/-- The power of a base with a possibly negative exponent, as a fraction. -/
def powerFraction (base : Nat) (exponent : Int) : Nat × Nat :=
  (Nat.pow base exponent.toNat, Nat.pow base (-exponent).toNat)

/-- The least `p` from `start` on, within `fuel` steps, such that `num / den < 10 ^ p`. -/
def leastPower (num den : Nat) : (fuel : Nat) → (start : Nat) → Nat
  | 0, p => p
  | fuel + 1, p => if num < den * Nat.pow 10 p then p else leastPower num den fuel (p + 1)

/-- The greatest `p` from `start` on, within `fuel` steps, such that `num * 10 ^ p / den < 1`. -/
def greatestPower (num den : Nat) : (fuel : Nat) → (start : Nat) → Nat
  | 0, p => p
  | fuel + 1, p =>
      if num * Nat.pow 10 (p + 1) < den then greatestPower num den fuel (p + 1) else p

/-- The place of the first digit: the `p` for which the number lies from `10 ^ (p - 1)` on and
below `10 ^ p`. -/
def magnitude (b : Binary) : Int :=
  let (up, down) := powerFraction 2 (b.exponent - 2)
  let num := b.quarters * up
  if num < down then -(greatestPower num down 400 0 : Nat) else leastPower num down 400 0

/-- The number, on the grid of multiples of `10 ^ place`: the multiple at or below it, and the
fraction `num / den` of a step by which it lies above. -/
structure GridPoint where
  below : Nat
  num : Nat
  den : Nat

/-- The grid point at or below the number. -/
def gridPoint (b : Binary) (place : Int) : GridPoint :=
  let (up, down) := powerFraction 2 (b.exponent - 2)
  let (tens, tenths) := powerFraction 10 place
  let num := b.quarters * up * tenths
  let den := down * tens
  ⟨num / den, num % den, den⟩

/-- Whether `point · 10 ^ place` rounds to the number. -/
def contains (b : Binary) (place : Int) (point : Nat) : Bool :=
  let (up, down) := powerFraction 2 (b.exponent - 2)
  let (tens, tenths) := powerFraction 10 place
  let scaled := point * (down * tens)
  let low := b.lower * up * tenths
  let high := b.upper * up * tenths
  if b.closed then low ≤ scaled && scaled ≤ high else low < scaled && scaled < high

/-- The point of the grid of multiples of `10 ^ place` that rounds to the number, if there is one:
of two neighbours the nearer. -/
def onGrid? (tie : Tie) (b : Binary) (place : Int) : Option Nat :=
  let g := b.gridPoint place
  match b.contains place g.below, b.contains place (g.below + 1) with
  | true, false => some g.below
  | false, true => some (g.below + 1)
  | false, false => none
  | true, true =>
      if 2 * g.num < g.den then some g.below
      else if g.den < 2 * g.num then some (g.below + 1)
      else match tie with
        | .up => some (g.below + 1)
        | .even => some (if g.below % 2 == 0 then g.below else g.below + 1)

/-- Searches the grids from `place` downward, each one digit finer than the last. -/
def search (tie : Tie) (b : Binary) : (fuel : Nat) → (place : Int) → Decimal
  | 0, place => ⟨(b.gridPoint place).below, place⟩
  | fuel + 1, place =>
      match b.onGrid? tie place with
      | some digits => ⟨digits, place⟩
      | none => search tie b fuel (place - 1)

/-- Moves the zeros at the end of the digits into the exponent. -/
def dropZeros : (fuel : Nat) → Decimal → Decimal
  | 0, d => d
  | fuel + 1, d =>
      if d.digits != 0 && d.digits % 10 == 0 then dropZeros fuel ⟨d.digits / 10, d.exponent + 1⟩
      else d

/-- The decimal with the fewest digits that rounds to the number; seventeen always suffice. -/
def shortest (tie : Tie) (b : Binary) : Decimal :=
  dropZeros 20 (b.search tie 17 (b.magnitude - 1))

end Binary

end ConfigSchema
