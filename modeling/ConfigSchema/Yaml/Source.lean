import ConfigSchema.Yaml.Fault

/-!
# Text with places

The lexer reads a list of glyphs: the characters of a text, each with its place, in which every
spelling of a line break is one glyph. Places are fixed once here, so that scanning never counts.

## Main definitions

- `Glyph` — a character with its place
- `Source` — the glyphs of a text and the place of its end
- `Source.ofString?` — the source of a text, unless it holds a character that YAML forbids
-/

namespace ConfigSchema.Yaml

/-- A character of a text with its place. -/
structure Glyph where
  char : Char
  mark : Mark
deriving DecidableEq, Repr

/-- Whether the character is a space or a tab. -/
def isBlank (c : Char) : Bool := c == ' ' || c == '\t'

/-- Whether the character breaks a line. Carriage returns and next-line characters do too, but a
source holds a line feed in their place. -/
def isBreak (c : Char) : Bool := c == '\n' || c == '\u2028' || c == '\u2029'

/-- Whether the character is a space, a tab or a line break. -/
def isBlankOrBreak (c : Char) : Bool := isBlank c || isBreak c

/-- Whether the character may occur in the names of anchors, directives and tag handles. -/
def isNameChar (c : Char) : Bool := c.isAlphanum || c == '_' || c == '-'

/-- Whether YAML text may hold the character. -/
def isAllowed (c : Char) : Bool :=
  let n := c.toNat
  n == 0x09 || n == 0x0A || n == 0x0D || (0x20 ≤ n && n ≤ 0x7E) || n == 0x85 ||
    (0xA0 ≤ n && n ≤ 0xD7FF) || (0xE000 ≤ n && n ≤ 0xFFFD) || 0x10000 ≤ n

/-- The place after a character that stays on its line. -/
def Mark.next (mark : Mark) (c : Char) : Mark :=
  ⟨mark.offset + c.utf8Size, mark.line, mark.column + 1⟩

/-- The place after a line break of `width` bytes. -/
def Mark.nextLine (mark : Mark) (width : Nat) : Mark :=
  ⟨mark.offset + width, mark.line + 1, 0⟩

/-- The glyphs of a text that starts at `mark`, and the place of its end. A carriage return, a
line feed, the two together and a next-line character are all read as a line feed. -/
def place (mark : Mark) : List Char → List Glyph × Mark
  | [] => ([], mark)
  | '\r' :: '\n' :: cs =>
      let (glyphs, finish) := place (mark.nextLine 2) cs
      (⟨'\n', mark⟩ :: glyphs, finish)
  | c :: cs =>
      if c == '\r' || c == '\u0085' then
        let (glyphs, finish) := place (mark.nextLine c.utf8Size) cs
        (⟨'\n', mark⟩ :: glyphs, finish)
      else if isBreak c then
        let (glyphs, finish) := place (mark.nextLine c.utf8Size) cs
        (⟨c, mark⟩ :: glyphs, finish)
      else
        let (glyphs, finish) := place (mark.next c) cs
        (⟨c, mark⟩ :: glyphs, finish)

/-- The glyphs of a text and the place of its end. -/
structure Source where
  glyphs : List Glyph
  finish : Mark

/-- The character that marks the byte order of a text. It is a glyph like any other here, which
takes a place on its line, so that what follows it does not start the line. -/
def byteOrderMark : Char := '\ufeff'

/-- The source of a text. A forbidden character anywhere is reported at the start, because it is
found before any token is read. -/
def Source.ofString? (text : String) : Except Fault Source :=
  let chars := text.toList
  if chars.all isAllowed then
    let (glyphs, finish) := place {} chars
    .ok ⟨glyphs, finish⟩
  else
    .error (.at {} .forbiddenCharacter)

/-- The place of the first glyph, or `finish` if none is left. -/
def hereOr (finish : Mark) : List Glyph → Mark
  | [] => finish
  | g :: _ => g.mark

/-- Whether the first glyph has the character `c`. -/
def startsWith (c : Char) : List Glyph → Bool
  | [] => false
  | g :: _ => g.char == c

/-- Whether the text is at its end or goes on with a blank or a line break. -/
def startsBlank : List Glyph → Bool
  | [] => true
  | g :: _ => isBlankOrBreak g.char

/-- Whether the text is at its end or at the end of a line. -/
def startsBreak : List Glyph → Bool
  | [] => true
  | g :: _ => isBreak g.char

/-- Whether the text goes on with the line `---` or `...`, according to `c`: three times the
character at the start of a line, then a blank, a line break or the end. -/
def startsMarker (c : Char) : List Glyph → Bool
  | g₁ :: g₂ :: g₃ :: rest =>
      g₁.mark.column == 0 && g₁.char == c && g₂.char == c && g₃.char == c && startsBlank rest
  | _ => false

/-- Whether the text goes on with a line that starts or ends a document. -/
def startsDocumentMarker (glyphs : List Glyph) : Bool :=
  startsMarker '-' glyphs || startsMarker '.' glyphs

/-- The text after the blanks at its start. -/
def dropBlanks (glyphs : List Glyph) : List Glyph := glyphs.dropWhile (isBlank ·.char)

/-- The text from the end of the line on, if it goes on with a comment. -/
def dropComment (glyphs : List Glyph) : List Glyph :=
  if startsWith '#' glyphs then glyphs.dropWhile (!isBreak ·.char) else glyphs

/-- The text after a line break at its start. -/
def dropBreak : List Glyph → List Glyph
  | [] => []
  | g :: rest => if isBreak g.char then rest else g :: rest

end ConfigSchema.Yaml
