import ConfigSchema.Pattern.Regex

/-!
# The normal form of expressions

Expressions are put together in a normal form: literals that follow each other are one literal, a
choice of single characters is a class, and what all branches of a choice begin with is taken out of
it. Sequences and choices lean to the right, and no first part or branch is one itself.

## Main definitions

- `Regex.isZeroWidth`, `Regex.isHopeless`, `Regex.advances` — what an expression takes
- `Regex.startsAtText`, `Regex.endsAtText` — whether an expression is bound to an end of the text
- `Regex.ofSet`, `Regex.sequence`, `Regex.choice`, `Regex.repeated` — the ways to put one together
-/

namespace ConfigSchema.Pattern.Regex

open ConfigSchema.Text (CharRanges)

/-! ## What an expression takes -/

/-- Whether an expression takes no character at all. -/
def isZeroWidth : Regex → Bool
  | empty => true
  | literal _ => false
  | chars _ => false
  | look _ => true
  | group body => body.isZeroWidth
  | seq first second => first.isZeroWidth && second.isZeroWidth
  | alt left right => left.isZeroWidth && right.isZeroWidth
  | times _ _ _ body => body.isZeroWidth

/-- Whether a part of an expression asks for a character of an empty class. -/
def isHopeless : Regex → Bool
  | chars set => set.isEmpty
  | group body => body.isHopeless
  | seq first second => first.isHopeless || second.isHopeless
  | alt left right => left.isHopeless || right.isHopeless
  | times _ _ _ body => body.isHopeless
  | _ => false

/-- Whether every match of an expression takes a character. -/
def advances : Regex → Bool
  | empty => false
  | literal _ => true
  | chars _ => true
  | look _ => false
  | group body => body.advances
  | seq first second => first.advances || second.advances
  | alt left right => left.advances && right.advances
  | times least _ _ body => 0 < least && body.advances

/-- Whether an expression can only match at the start of the text. -/
def startsAtText : Regex → Bool
  | look condition => condition == .textStart
  | group body => body.startsAtText
  | seq first second => first.startsAtText || (first.isZeroWidth && second.startsAtText)
  | alt left right => left.startsAtText && right.startsAtText
  | times least _ _ body => 0 < least && body.startsAtText
  | _ => false

/-- Whether an expression can only match up to the end of the text. -/
def endsAtText : Regex → Bool
  | look condition => condition == .textEnd
  | group body => body.endsAtText
  | seq first second => second.endsAtText || (second.isZeroWidth && first.endsAtText)
  | alt left right => left.endsAtText && right.endsAtText
  | times least _ _ body => 0 < least && body.endsAtText
  | _ => false

/-! ## Sequences -/

/-- A character of a set. -/
def ofSet (set : CharRanges) : Regex :=
  match set with
  | [(low, high)] => if low == high then literal [.ofNat low] else chars set
  | _ => chars set

/-- The expressions that follow each other in a sequence. -/
def parts : Regex → List Regex
  | empty => []
  | seq first second => first :: second.parts
  | part => [part]

/-- One expression after another. -/
def append : Regex → Regex → Regex
  | empty, second => second
  | seq first rest, second => seq first (rest.append second)
  | first, empty => first
  | literal cs, literal ds => literal (cs ++ ds)
  | literal cs, seq (literal ds) rest => seq (literal (cs ++ ds)) rest
  | first, second => seq first second

/-- Expressions that follow each other. -/
def sequence (parts : List Regex) : Regex := parts.foldr append empty

/-- An expression at least `least` times, and at most `most?` times if that is given. More than once
makes no difference if it takes no character. -/
def repeated (least : Nat) (most? : Option Nat) (greedy : Bool) (body : Regex) : Regex :=
  let (least, most?) :=
    if body.isZeroWidth then (min least 1, some (min (most?.getD 1) 1)) else (least, most?)
  if most? == some 0 then empty
  else if least == 1 && most? == some 1 then body
  else times least most? greedy body

/-! ## Choices -/

/-- The branches of a choice. -/
def branches : Regex → List Regex
  | alt left right => left :: right.branches
  | branch => [branch]

/-- The choice of some branches. -/
def ofBranches : List Regex → Regex
  | [] => chars []
  | [one] => one
  | first :: rest => alt first (ofBranches rest)

/-- The set of an expression that takes one character of it. -/
def set? : Regex → Option CharRanges
  | chars set => some set
  | _ => none

/-- The character of an expression that takes just that one. -/
def char? : Regex → Option Char
  | literal [c] => some c
  | _ => none

/-- Whether an expression holds a group. -/
def hasGroup : Regex → Bool
  | group _ => true
  | seq first second => first.hasGroup || second.hasGroup
  | alt left right => left.hasGroup || right.hasGroup
  | times _ _ _ body => body.hasGroup
  | _ => false

/-- The number of expressions that an expression is made of. -/
def weight : Regex → Nat
  | group body => body.weight + 1
  | seq first second => first.weight + second.weight + 1
  | alt left right => left.weight + right.weight + 1
  | times _ _ _ body => body.weight + 1
  | _ => 1

/-- The parts that a branch can share with others; only a sequence has such. -/
def sharable : Regex → List Regex
  | seq first second => (seq first second).parts
  | _ => []

/-- The parts that two sequences both begin with. No two groups are the same. -/
def commonParts : List Regex → List Regex → List Regex
  | x :: xs, y :: ys => if x == y && !x.hasGroup then x :: commonParts xs ys else []
  | _, _ => []

/-- A choice of branches. What all of them begin with is taken out, and the same is done to the
rest of them; each step takes a part off every branch, so their weight is enough `fuel`. -/
def choiceFrom : (fuel : Nat) → List Regex → Regex
  | 0, rs => ofBranches rs
  | fuel + 1, rs =>
      match rs.flatMap branches with
      | [] => ofBranches []
      | [one] => one
      | first :: rest =>
          match (first :: rest).mapM char?, (first :: rest).mapM set? with
          | some cs, _ => ofSet (.ofCodes (cs.map Char.toNat))
          | none, some sets => ofSet (.unionAll sets)
          | none, none =>
              let shared :=
                rest.foldl (fun shared r => commonParts shared r.sharable) first.sharable
              if shared.isEmpty then ofBranches (first :: rest)
              else
                let others := (first :: rest).map fun r => sequence (r.parts.drop shared.length)
                sequence (shared ++ [choiceFrom fuel others])

/-- A choice of branches. -/
def choice (rs : List Regex) : Regex := choiceFrom (rs.foldl (fun sum r => sum + r.weight) 1) rs

end ConfigSchema.Pattern.Regex
