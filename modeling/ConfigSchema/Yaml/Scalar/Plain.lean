import ConfigSchema.Yaml.Scalar.Gap

/-!
# Plain scalars

A plain scalar is text without quotes. It ends before a comment, before a colon that is followed by
a blank, before a line that is not indented far enough, and inside brackets also before a comma or
a bracket.

## Main definitions

- `scanPlain` — the text of a plain scalar and what follows it
-/

namespace ConfigSchema.Yaml

/-- Whether the character separates or closes the nodes between brackets. -/
def isFlowIndicator (c : Char) : Bool :=
  c == ',' || c == '[' || c == ']' || c == '\x7b' || c == '\x7d'

/-- Whether the text goes on with a character that may not follow a colon between brackets. -/
def startsFlowIndicator : List Glyph → Bool
  | [] => false
  | g :: _ => g.char == '?' || isFlowIndicator g.char

/-- A scanned plain scalar. -/
structure PlainScan where
  text : String
  /-- Whether the scalar was left over a line break. -/
  crossedLine : Bool
  rest : List Glyph

/-- Reads a plain scalar. `text` is what has been read so far, its last character first, and `gap`
what came after it; `margin` is the least column of a continuation line. -/
def scanPlain (inFlow : Bool) (margin : Nat) (text : List Char) (gap : Gap) :
    List Glyph → Except Fault PlainScan
  | [] => .ok ⟨.ofList text.reverse, gap.broken, []⟩
  | g :: rest =>
      let stop := .ok ⟨.ofList text.reverse, gap.broken, g :: rest⟩
      if isBlank g.char then
        if gap.broken && g.mark.column < margin && g.char == '\t' then
          .error (.at g.mark .plainTab)
        else
          scanPlain inFlow margin text (gap.addBlank g.char) rest
      else if isBreak g.char then
        scanPlain inFlow margin text (gap.addBreak g.char) rest
      else if !gap.isEmpty &&
          ((!inFlow && g.mark.column < margin) || startsDocumentMarker (g :: rest) ||
            g.char == '#') then
        stop
      else if inFlow && g.char == ':' && startsFlowIndicator rest then
        .error (.at g.mark .plainColon)
      else if (g.char == ':' && startsBlank rest) || (inFlow && isFlowIndicator g.char) then
        stop
      else
        scanPlain inFlow margin (g.char :: (gap.folded ++ text)) {} rest

end ConfigSchema.Yaml
