/-!
# Sets of characters

A set of characters as a list of ranges of code points. The operations take and give lists in normal
form: the ranges stand in order, and between two of them at least one code point is missing.

## Main definitions

- `CharRanges` — the ranges
- `CharRanges.contains` — membership
- `CharRanges.union`, `CharRanges.inter`, `CharRanges.diff`, `CharRanges.symDiff` — set operations
- `CharRanges.compl` — the other characters
- `NamedSet` — a set with names
-/

namespace ConfigSchema.Text

/-- Ranges of code points, both ends included. -/
abbrev CharRanges := List (Nat × Nat)

/-- The greatest code point. -/
def maxCode : Nat := 0x10FFFF

/-- The code point of the character after one; surrogates are passed over. -/
def codeAfter (n : Nat) : Nat := if n == 0xD7FF then 0xE000 else n + 1

/-- The code point of the character before one; surrogates are passed over. -/
def codeBefore (n : Nat) : Nat := if n == 0xE000 then 0xD7FF else n - 1

namespace CharRanges

/-- Whether a code point lies in one of the ranges. -/
def contains (ranges : CharRanges) (n : Nat) : Bool :=
  ranges.any fun (low, high) => low ≤ n && n ≤ high

/-- The set of one code point. -/
def single (n : Nat) : CharRanges := [(n, n)]

/-- All code points of the set. -/
def codes (ranges : CharRanges) : List Nat :=
  ranges.flatMap fun (low, high) => List.range' low (high + 1 - low)

/-! ## Union -/

/-- The ranges of two lists by their starts. Every step takes one range, so the number of ranges is
enough `fuel`. -/
def merge : (fuel : Nat) → CharRanges → CharRanges → CharRanges
  | fuel + 1, x :: xs, y :: ys =>
      if x.1 ≤ y.1 then x :: merge fuel xs (y :: ys) else y :: merge fuel (x :: xs) ys
  | _, [], ys => ys
  | _, xs, _ => xs

/-- The range from `low` to `high` and those after it, joined where they meet. -/
def joinFrom (low high : Nat) : CharRanges → CharRanges
  | [] => [(low, high)]
  | (l, h) :: rest =>
      if l ≤ high + 1 then joinFrom low (max high h) rest else (low, high) :: joinFrom l h rest

/-- Ranges that stand by their starts, joined where they meet. -/
def join : CharRanges → CharRanges
  | [] => []
  | (low, high) :: rest => joinFrom low high rest

/-- The code points of either set. -/
def union (left right : CharRanges) : CharRanges :=
  join (merge (left.length + right.length) left right)

/-- The unions of neighbours. -/
def unionPairs : List CharRanges → List CharRanges
  | first :: second :: rest => first.union second :: unionPairs rest
  | rest => rest

/-- The union of several sets. Every step halves their number, so that number is enough `fuel`. -/
def unionAllFrom : (fuel : Nat) → List CharRanges → CharRanges
  | _, [] => []
  | _, [one] => one
  | 0, _ => []
  | fuel + 1, sets => unionAllFrom fuel (unionPairs sets)

/-- The code points of any of the sets. -/
def unionAll (sets : List CharRanges) : CharRanges := unionAllFrom sets.length sets

/-- The set of some code points. -/
def ofCodes (codes : List Nat) : CharRanges := unionAll (codes.map single)

/-! ## Other operations -/

/-- The overlaps of the ranges of two lists. Every step takes one range, so the number of ranges is
enough `fuel`. -/
def overlaps : (fuel : Nat) → CharRanges → CharRanges → CharRanges
  | fuel + 1, (a, b) :: xs, (c, d) :: ys =>
      let rest :=
        if b < d then overlaps fuel xs ((c, d) :: ys) else overlaps fuel ((a, b) :: xs) ys
      if max a c ≤ min b d then (max a c, min b d) :: rest else rest
  | _, _, _ => []

/-- The code points of both sets. -/
def inter (left right : CharRanges) : CharRanges :=
  overlaps (left.length + right.length) left right

/-- What lies from `low` on between the ranges. -/
def gapsFrom (low : Nat) : CharRanges → CharRanges
  | [] => if low ≤ maxCode then [(low, maxCode)] else []
  | (l, h) :: rest =>
      if low < l then (low, codeBefore l) :: gapsFrom (codeAfter h) rest
      else gapsFrom (codeAfter h) rest

/-- The code points of the first set that are not in the second. -/
def diff (left right : CharRanges) : CharRanges := left.inter (gapsFrom 0 right)

/-- The code points of one of the sets alone. -/
def symDiff (left right : CharRanges) : CharRanges := (left.union right).diff (left.inter right)

/-- The other characters. Where two ranges meet at the surrogates, the characters on both sides of
these stay, because the gap between the ranges is taken for one from the later to the earlier. -/
def compl (ranges : CharRanges) : CharRanges :=
  let gaps := gapsFrom 0 ranges
  if ranges.any (·.2 == 0xD7FF) && ranges.any (·.1 == 0xE000) then gaps.union [(0xD7FF, 0xE000)]
  else gaps

end CharRanges

/-- A set of characters with the names by which it can be asked for. -/
structure NamedSet where
  /-- The names, in lower case and without spaces, dashes and underscores. -/
  names : List String
  /-- The characters. -/
  ranges : CharRanges

/-- The set of a name. -/
def NamedSet.find? (sets : List NamedSet) (name : String) : Option CharRanges :=
  (sets.find? (·.names.contains name)).map (·.ranges)

end ConfigSchema.Text
