import ConfigSchema.Yaml.Source

/-!
# Folding

In plain and quoted scalars, blanks between words are kept and line breaks are folded: one line
break becomes a space, and of several the first is dropped. Blanks around line breaks vanish.

## Main definitions

- `Gap` — the blanks and line breaks read since the last word
- `Gap.folded` — the text that stands for them
-/

namespace ConfigSchema.Yaml

/-- The blanks and line breaks since the last word of a scalar, the latest first. -/
structure Gap where
  /-- The blanks before any line break. -/
  blanks : List Char := []
  /-- Whether a line has ended. -/
  broken : Bool := false
  /-- The first line break, unless it was escaped. -/
  first : Option Char := none
  /-- The line breaks after the first. -/
  more : List Char := []
deriving DecidableEq, Repr

namespace Gap

/-- Whether nothing has been read since the last word. -/
def isEmpty (gap : Gap) : Bool := !gap.broken && gap.blanks.isEmpty

/-- The gap after one more blank; blanks after a line break leave no trace. -/
def addBlank (gap : Gap) (c : Char) : Gap :=
  if gap.broken then gap else { gap with blanks := c :: gap.blanks }

/-- The gap after one more line break; the first makes the blanks before it vanish. -/
def addBreak (gap : Gap) (c : Char) : Gap :=
  if gap.broken then { gap with more := c :: gap.more } else { broken := true, first := some c }

/-- The gap after an escaped line break. -/
def escaped : Gap := { broken := true }

/-- The text that stands for a gap, its last character first. A line feed before a word is a space
unless further line breaks follow; the separators of lines and paragraphs are kept. -/
def folded (gap : Gap) : List Char :=
  if gap.broken then
    match gap.first with
    | some '\n' => if gap.more.isEmpty then [' '] else gap.more
    | some c => gap.more ++ [c]
    | none => gap.more
  else
    gap.blanks

end Gap

end ConfigSchema.Yaml
