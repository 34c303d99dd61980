import ConfigSchema.Yaml.Source

/-!
# Block scalars

A block scalar takes whole lines of text that are indented below the node that holds them. The
literal style keeps their line breaks; the folded style joins adjacent lines of words by spaces.

## Main definitions

- `BlockHeader` — the signs after the indicator: what to do with the last line breaks, and how far
  the lines are indented
- `scanBlock` — the text of a block scalar and what follows it
-/

namespace ConfigSchema.Yaml

/-- What becomes of the line breaks at the end of a block scalar: none, one or all are kept. -/
inductive Chomp where
  | strip
  | clip
  | keep
deriving DecidableEq, Repr

/-- The signs between the indicator of a block scalar and the end of its line. -/
structure BlockHeader where
  chomp : Chomp := .clip
  /-- The columns of indentation, if they are stated. -/
  indent : Option Nat := none
deriving DecidableEq, Repr

/-- Reads the sign that says what becomes of the last line breaks. -/
def scanChomp : List Glyph → Option Chomp × List Glyph
  | [] => (none, [])
  | g :: rest =>
      if g.char == '+' then (some .keep, rest)
      else if g.char == '-' then (some .strip, rest)
      else (none, g :: rest)

/-- Reads the digit that states the indentation, which may not be zero. -/
def scanIndent : List Glyph → Except Fault (Option Nat × List Glyph)
  | [] => .ok (none, [])
  | g :: rest =>
      if g.char == '0' then .error (.at g.mark .blockIndentZero)
      else if g.char.isDigit then .ok (some (g.char.toNat - '0'.toNat), rest)
      else .ok (none, g :: rest)

/-- Reads the two signs of a header, in either order, to the end of their line. -/
def scanBlockHeader (finish : Mark) (glyphs : List Glyph) :
    Except Fault (BlockHeader × List Glyph) := do
  let (early, glyphs) := scanChomp glyphs
  let (indent, glyphs) ← scanIndent glyphs
  let (late, glyphs) := if early.isNone && indent.isSome then scanChomp glyphs else (none, glyphs)
  let glyphs := dropComment (dropBlanks glyphs)
  if startsBreak glyphs then
    return (⟨(early.or late).getD .clip, indent⟩, dropBreak glyphs)
  else
    throw (.at (hereOr finish glyphs) .blockHeaderTrailing)

/-- A block scalar that is being read. -/
structure BlockScan where
  /-- The column at which its lines start, once it is known. -/
  indent : Option Nat
  /-- The widest indentation met while the column is not known. -/
  widest : Nat := 0
  /-- The text so far, its last character first. -/
  text : List Char := []
  /-- The line break after the last line. -/
  lineEnd : Option Char := none
  /-- The empty lines after it, the last one first. -/
  breaks : List Char := []
  /-- Whether the last line started with a blank. -/
  startedBlank : Bool := false

/-- The scan after the first character of a further line. Two lines of words are joined by a space,
unless empty lines stand between them; a line that starts with a blank is never joined. -/
def BlockScan.startLine (literal : Bool) (scan : BlockScan) (c : Char) : BlockScan :=
  let folds := !literal && scan.lineEnd == some '\n' && !scan.startedBlank && !isBlank c
  let joined :=
    if folds then (if scan.breaks.isEmpty then ' ' :: scan.text else scan.text)
    else scan.lineEnd.toList ++ scan.text
  { scan with
    text := c :: (scan.breaks ++ joined), lineEnd := none, breaks := [], startedBlank := isBlank c }

/-- The text of a completed scan. -/
def BlockScan.result (scan : BlockScan) (chomp : Chomp) : String :=
  let lineEnd := if chomp == .strip then [] else scan.lineEnd.toList
  let breaks := if chomp == .keep then scan.breaks else []
  .ofList (breaks ++ (lineEnd ++ scan.text)).reverse

/-- Reads the lines of a block scalar. `inLine` says that the text goes on inside a line and not in
the indentation before one; `margin` is the least indentation that the lines may have. -/
def scanBlockLines (literal : Bool) (margin : Nat) (scan : BlockScan) (inLine : Bool) :
    List Glyph → Except Fault (BlockScan × List Glyph)
  | [] => .ok (if inLine then { scan with lineEnd := none, breaks := [] } else scan, [])
  | g :: rest =>
      if inLine then
        if isBreak g.char then
          scanBlockLines literal margin { scan with lineEnd := some g.char, breaks := [] } false
            rest
        else
          scanBlockLines literal margin { scan with text := g.char :: scan.text } true rest
      else
        let inMargin := scan.indent.all (g.mark.column < ·)
        if inMargin && g.char == ' ' then
          scanBlockLines literal margin scan false rest
        else if inMargin && g.char == '\t' then
          .error (.at g.mark .blockTab)
        else
          let widest := max scan.widest g.mark.column
          if isBreak g.char then
            let scan := { scan with widest := widest, breaks := g.char :: scan.breaks }
            scanBlockLines literal margin scan false rest
          else
            let indent := scan.indent.getD (max widest (max margin 1))
            if g.mark.column == indent then
              let scan := { scan with indent := some indent }.startLine literal g.char
              scanBlockLines literal margin scan true rest
            else
              .ok (scan, g :: rest)

/-- Reads a block scalar after its indicator. `parent` is the column of the collection that holds
it, if there is one. -/
def scanBlock (literal : Bool) (parent : Option Nat) (finish : Mark) (glyphs : List Glyph) :
    Except Fault (String × List Glyph) := do
  let (header, glyphs) ← scanBlockHeader finish glyphs
  let margin := parent.elim 0 (· + 1)
  let scan : BlockScan := { indent := header.indent.map (parent.getD 0 + ·) }
  let (scan, rest) ← scanBlockLines literal margin scan false glyphs
  return (scan.result header.chomp, rest)

end ConfigSchema.Yaml
