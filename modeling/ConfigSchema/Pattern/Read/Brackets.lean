import ConfigSchema.Pattern.Read.Escape

/-!
# Bracketed classes

A class in brackets lists characters, ranges and further classes. Two classes can be combined by
`&&`, `--` and `~~`, which all bind alike and to the left.

## Main definitions

- `Member` — a part of a class, with the depth to which it is nested
- `readBrackets?` — reads a class after its opening bracket
-/

namespace ConfigSchema.Pattern

open ConfigSchema.Text (CharRanges)

/-- A part of a class in brackets. -/
structure Member where
  set : CharRanges
  /-- How deep the parts are nested. -/
  depth : Nat

namespace Member

/-- The parts that are listed one after the other. -/
def ofList : List Member → Member
  | [] => ⟨[], 0⟩
  | [one] => one
  | several =>
      ⟨.unionAll (several.map (·.set)),
        several.foldl (fun depth member => max depth member.depth) 0 + 1⟩

/-- Two parts combined. The rule for case holds before they are. -/
def combine (opts : Options) (operation : CharRanges → CharRanges → CharRanges)
    (left right : Member) : Member :=
  ⟨operation (settle opts false left.set) (settle opts false right.set),
    max left.depth right.depth + 1⟩

end Member

/-- A class that is read as a whole. Without characters of all scripts its members are bytes, and
those of text are ASCII. -/
def settle? (opts : Options) (negated : Bool) (set : CharRanges) : Option CharRanges :=
  let set := settle opts negated set
  if opts.unicode || CharClass.isAscii set then some set else none

/-- What a bracketed class may list between its operators. -/
inductive Item where
  | char (c : Char)
  | set (set : CharRanges)

/-- A listed character. Where members are bytes it is one of ASCII. -/
def Item.ofChar? (opts : Options) (c : Char) : Option Item :=
  if opts.unicode || c.toNat < 0x80 then some (.char c) else none

/-- Reads a character or an escape. -/
def readItem? (opts : Options) : List Char → Option (Item × List Char)
  | [] => none
  | '\\' :: cs => do
      match ← readEscape? opts cs with
      | (.char c _, cs) => return (← Item.ofChar? opts c, cs)
      | (.set set, cs) => return (.set set, cs)
      | (.look _, _) => none
  | c :: cs => do return (← Item.ofChar? opts c, cs)

/-- The character that tells whether a dash makes a range: the next one past white space. Here a
comment is not passed over, but looked into. -/
def afterDash? (opts : Options) (cs : List Char) : Option Char :=
  if opts.spaced then
    let ahead := match cs.dropWhile Text.isWhite with
      | '#' :: cs => cs.dropWhile Text.isWhite
      | cs => cs
    ahead.head?.or cs.head?
  else cs.head?

/-- Reads an item, or a range of two characters. A dash before a bracket or a dash makes none. -/
def readRange? (opts : Options) (cs : List Char) : Option (Member × List Char) := do
  let (low, cs) ← readItem? opts cs
  let single : Member := match low with
    | .char c => ⟨.single c.toNat, 0⟩
    | .set set => ⟨set, 0⟩
  match opts.skip cs with
  | [] => none
  | '-' :: rest =>
      if afterDash? opts rest == some ']' || afterDash? opts rest == some '-' then
        return (single, '-' :: rest)
      else
        let (high, after) ← readItem? opts (opts.skip rest)
        match low, high with
        | .char first, .char last =>
            guard (first ≤ last)
            return (⟨[(first.toNat, last.toNat)], 0⟩, after)
        | _, _ => none
  | rest => return (single, rest)

/-- Reads the name of a class of ASCII after its opening bracket, as in `[:alpha:]`. What is no such
name is left alone. -/
def readAsciiName? (opts : Options) (cs : List Char) :
    Option (CharRanges × Bool × List Char) := do
  let ':' :: cs := cs | none
  let (negated, cs) := match cs with
    | '^' :: cs => (true, cs)
    | cs => (false, cs)
  let (name, rest) := cs.span (· != ':')
  let ':' :: ']' :: rest := rest | none
  let spans ← CharClass.ascii? (.ofList name)
  let set := settle opts negated spans
  return (set, opts.unicode || CharClass.isAscii set, rest)

/-- Reads the dashes that a class may begin with. Each takes one unit of `fuel`. -/
def readDashes (opts : Options) : (fuel : Nat) → (count : Nat) → List Char → Nat × List Char
  | fuel + 1, count, '-' :: cs => readDashes opts fuel (count + 1) (opts.skip cs)
  | _, count, cs => (count, cs)

/-- Reads the sign of negation, dashes and a closing bracket that stand for themselves at the start
of a class. -/
def readOpening (opts : Options) (cs : List Char) : Bool × List Member × List Char :=
  let (negated, cs) := match opts.skip cs with
    | '^' :: cs => (true, opts.skip cs)
    | cs => (false, cs)
  let (dashes, cs) := readDashes opts (cs.length + 1) 0 cs
  match dashes, cs with
  | 0, ']' :: cs => (negated, [⟨.single 0x5D, 0⟩], opts.skip cs)
  | _, cs => (negated, List.replicate dashes ⟨.single 0x2D, 0⟩, cs)

/-- Reads a class up to its closing bracket. `finish` combines what precedes the last operator with
what follows it, and `members` are the parts since that operator, the last first. Every call takes
at least one character, so the number of characters is enough `fuel`. -/
def readMembers? (opts : Options) : (fuel : Nat) → (finish : Member → Member) →
    (members : List Member) → List Char → Option (Member × List Char)
  | 0, _, _, _ => none
  | fuel + 1, finish, members, cs =>
      let operator (operation : CharRanges → CharRanges → CharRanges) (cs : List Char) :=
        let left := finish (.ofList members.reverse)
        readMembers? opts fuel (Member.combine opts operation left) [] cs
      match opts.skip cs with
      | [] => none
      | ']' :: cs => some (finish (.ofList members.reverse), cs)
      | '&' :: '&' :: cs => operator CharRanges.inter cs
      | '-' :: '-' :: cs => operator CharRanges.diff cs
      | '~' :: '~' :: cs => operator CharRanges.symDiff cs
      | '[' :: cs =>
          match readAsciiName? opts cs with
          | some (set, isText, rest) => do
              guard isText
              readMembers? opts fuel finish (⟨set, 0⟩ :: members) rest
          | none => do
              let (negated, first, cs) := readOpening opts cs
              let (inner, cs) ← readMembers? opts fuel id first.reverse cs
              let set ← settle? opts negated inner.set
              readMembers? opts fuel finish (⟨set, inner.depth + 1⟩ :: members) cs
      | cs => do
          let (member, cs) ← readRange? opts cs
          readMembers? opts fuel finish (member :: members) cs

/-- Reads a class after its opening bracket. -/
def readBrackets? (opts : Options) (cs : List Char) : Option (Member × List Char) := do
  let (negated, first, cs) := readOpening opts cs
  let (inner, cs) ← readMembers? opts (cs.length + 1) id first.reverse cs
  return (⟨← settle? opts negated inner.set, inner.depth + 1⟩, cs)

end ConfigSchema.Pattern
