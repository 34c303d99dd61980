import ConfigSchema.Text.Case.Table

/-!
# Upper and lower case

Case conversion by the full mappings of Unicode. A capital sigma at the end of a word becomes the
final form of the small letter.

## Main definitions

- `toLower`, `toUpper` — a text in lower and in upper case
-/

namespace ConfigSchema.Text

/-- The distance by which a run maps a code point, if it does. -/
def CaseRun.shift? (run : CaseRun) (n : Nat) : Option Int :=
  if run.first ≤ n && n ≤ run.last && (n - run.first) % run.step == 0 then some run.shift else none

/-- The characters that a character is mapped to. -/
def mapCase (runs : List CaseRun) (expansions : List (Nat × List Nat)) (c : Char) : List Char :=
  match runs.findSome? (·.shift? c.toNat) with
  | some shift => [Char.ofNat (c.toNat + shift).toNat]
  | none =>
      match expansions.lookup c.toNat with
      | some codes => codes.map Char.ofNat
      | none => [c]

/-- A character in upper case. -/
def upperChar (c : Char) : List Char := mapCase upperRuns upperExpansions c

/-- A character in lower case, without regard to its neighbours. -/
def lowerChar (c : Char) : List Char := mapCase lowerRuns lowerExpansions c

/-- Whether a character that has case comes next, past characters that are ignored. -/
def meetsCased (cs : List Char) : Bool :=
  match cs.dropWhile fun c => CharRanges.contains caseIgnorableRanges c.toNat with
  | [] => false
  | c :: _ => CharRanges.contains casedRanges c.toNat

/-- Characters in lower case; `before` are the characters before them, the last first. -/
def lowerFrom : (before : List Char) → List Char → List Char
  | _, [] => []
  | before, c :: cs =>
      let lower :=
        if c == 'Σ' then [if meetsCased before && !meetsCased cs then 'ς' else 'σ'] else lowerChar c
      lower ++ lowerFrom (c :: before) cs

/-- A text in lower case. -/
def toLower (text : String) : String := .ofList (lowerFrom [] text.toList)

/-- A text in upper case. -/
def toUpper (text : String) : String := .ofList (text.toList.flatMap upperChar)

end ConfigSchema.Text
