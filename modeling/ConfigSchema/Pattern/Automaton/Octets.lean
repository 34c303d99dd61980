import ConfigSchema.Text.CharRange

/-!
# Bytes of characters

Automata read bytes. A range of characters is split into ranges whose bytes can be told one by one.

## Main definitions

- `octets` — the bytes of a character
- `octetRanges` — the ranges of bytes, first to last, that a range of characters is made of
-/

namespace ConfigSchema.Pattern

open ConfigSchema.Text (CharRanges)

/-- The bytes of a character. -/
def octets (c : Char) : List Nat := (String.utf8EncodeChar c).map UInt8.toNat

/-- The start of the second part of a range that has to be split: where characters get longer by a
byte, or where a block ends in which only the last bytes differ. -/
def splitPoint? (low high : Nat) : Option Nat :=
  match [0x80, 0x800, 0x10000].find? fun bound => low < bound && bound ≤ high with
  | some bound => some bound
  | none =>
      if high < 0x80 then none
      else [0x40, 0x1000, 0x40000].findSome? fun block =>
        if low / block == high / block then none
        else if low % block != 0 then some ((low / block + 1) * block)
        else if high % block != block - 1 then some (high / block * block)
        else none

/-- A range in parts that need no splitting. There are no more than three bounds between lengths and
two splits for each of three blocks, so the `fuel` lasts. -/
def splitRange : (fuel : Nat) → (low high : Nat) → CharRanges
  | 0, low, high => [(low, high)]
  | fuel + 1, low, high =>
      match splitPoint? low high with
      | some point => splitRange fuel low (point - 1) ++ splitRange fuel point high
      | none => [(low, high)]

/-- The bytes of each part of a range, as ranges. -/
def octetRanges (range : Nat × Nat) : List (List (Nat × Nat)) :=
  let (low, high) := range
  let halves :=
    if low < 0xE000 && 0xD7FF < high then [(low, 0xD7FF), (0xE000, high)] else [(low, high)]
  (halves.flatMap fun (low, high) => splitRange 12 low high).map fun (low, high) =>
    (octets (.ofNat low)).zip (octets (.ofNat high))

end ConfigSchema.Pattern
