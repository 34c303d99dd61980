import ConfigSchema.Pattern.CharClass

/-!
# Regular expressions

Regular expressions over characters, with conditions on a place that take no character.

## Main definitions

- `Look` — a condition on a place, given the characters on both sides of it
- `Regex` — the expressions
- `Regex.reach` — the places at which an expression can end, given those at which it may start
- `Regex.accepts` — whether an expression matches some part of a text

## Design notes

A set of places is a list of marks, one for the place before each character and one for the end.
An expression maps the marks of its starts to the marks of its ends, so that no way of matching is
tried twice.
-/

namespace ConfigSchema.Pattern

open ConfigSchema.Text (CharRanges)

/-- A condition on a place in a text. -/
inductive Look where
  | textStart
  | textEnd
  /-- A line starts here; with `crlf`, a carriage return ends lines too. -/
  | lineStart (crlf : Bool)
  | lineEnd (crlf : Bool)
  | wordBoundary (unicode : Bool)
  | notWordBoundary (unicode : Bool)
  | wordStart (unicode : Bool)
  | wordEnd (unicode : Bool)
  /-- No word character stands before the place. -/
  | wordStartHalf (unicode : Bool)
  /-- No word character stands after the place. -/
  | wordEndHalf (unicode : Bool)
deriving DecidableEq, Repr

/-- Whether there is a word character. -/
def isWordChar (unicode : Bool) (c? : Option Char) : Bool :=
  c?.any fun c => (CharClass.wordChars unicode).contains c.toNat

/-- Whether a condition holds between two characters; at the ends of the text one is missing. -/
def Look.holds (look : Look) (before after : Option Char) : Bool :=
  match look with
  | textStart => before.isNone
  | textEnd => after.isNone
  | lineStart false => before.isNone || before == some '\n'
  | lineStart true =>
      before.isNone || before == some '\n' || (before == some '\r' && after != some '\n')
  | lineEnd false => after.isNone || after == some '\n'
  | lineEnd true =>
      after.isNone || after == some '\r' || (after == some '\n' && before != some '\r')
  | wordBoundary unicode => isWordChar unicode before != isWordChar unicode after
  | notWordBoundary unicode => isWordChar unicode before == isWordChar unicode after
  | wordStart unicode => !isWordChar unicode before && isWordChar unicode after
  | wordEnd unicode => isWordChar unicode before && !isWordChar unicode after
  | wordStartHalf unicode => !isWordChar unicode before
  | wordEndHalf unicode => !isWordChar unicode after

/-- A regular expression. -/
inductive Regex where
  | empty
  /-- Certain characters, one after the other. -/
  | literal (chars : List Char)
  /-- One character of a set. -/
  | chars (set : CharRanges)
  | look (condition : Look)
  /-- An expression in parentheses whose match is noted. -/
  | group (body : Regex)
  | seq (first second : Regex)
  | alt (left right : Regex)
  /-- An expression at least `least` times, and at most `most?` times if that is given. A greedy
  one is tried more often first, which makes no difference to the places that it can lead to. -/
  | times (least : Nat) (most? : Option Nat) (greedy : Bool) (body : Regex)
deriving DecidableEq, Repr

/-- A mark for the place before each character of a text, and one for its end. -/
abbrev Marks := List Bool

/-- Whether any place is marked. -/
def Marks.any (marks : Marks) : Bool := List.any marks id

/-- The places that are marked in either list. -/
def Marks.union (left right : Marks) : Marks := List.zipWith or left right

/-- The places that are marked in the first list only. -/
def Marks.diff (left right : Marks) : Marks := List.zipWith (fun a b => a && !b) left right

/-- Applies a step `count` times, or fewer when that makes no difference. -/
def iterate (step : Marks → Marks) : (count : Nat) → Marks → Marks
  | 0, marks => marks
  | count + 1, marks =>
      let next := step marks
      if next == marks then marks else iterate step count next

/-- The places within `count` steps of those in `found`, of which `fresh` have not been left yet. -/
def spread (step : Marks → Marks) : (count : Nat) → (fresh found : Marks) → Marks
  | 0, _, found => found
  | count + 1, fresh, found =>
      let next := (step fresh).diff found
      if next.any then spread step count next (found.union next) else found

/-- The places after one character of a kind, from the marked ones on. -/
def Marks.after (isKind : Char → Bool) (text : List Char) (marks : Marks) : Marks :=
  false :: List.zipWith (fun here c => here && isKind c) marks text

namespace Regex

/-- The places that an expression can lead to from the marked ones. Repeating it more often than
there are places leads to no new one. -/
def reach : Regex → (text : List Char) → Marks → Marks
  | empty, _, marks => marks
  | literal cs, text, marks => cs.foldl (fun marks c => marks.after (· == c) text) marks
  | chars set, text, marks => marks.after (fun c => set.contains c.toNat) text
  | look condition, text, marks =>
      let sides := (none :: text.map some).zip (text.map some ++ [none])
      List.zipWith (fun here side => here && condition.holds side.1 side.2) marks sides
  | group body, text, marks => body.reach text marks
  | seq first second, text, marks => second.reach text (first.reach text marks)
  | alt left right, text, marks => (left.reach text marks).union (right.reach text marks)
  | times least most? _ body, text, marks =>
      let after := iterate (fun marks => body.reach text marks) least marks
      let more := match most? with
        | some most => min (most - least) (text.length + 1)
        | none => text.length + 1
      spread (fun marks => body.reach text marks) more after after

/-- Whether an expression matches some part of a text. -/
def accepts (r : Regex) (text : String) : Bool :=
  (r.reach text.toList (List.replicate (text.length + 1) true)).any

end Regex

end ConfigSchema.Pattern
