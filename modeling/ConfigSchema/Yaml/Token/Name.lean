import ConfigSchema.Yaml.Scalar.Quoted
import ConfigSchema.Yaml.Token

/-!
# Anchors, tags and directives

The tokens that name things: `&name` marks a node, `*name` repeats it, `!name` states its type, and
a line that starts with a percent sign declares the version of the text or the handle of a tag.

## Main definitions

- `scanAnchor` — the name of an anchor or alias
- `scanTag` — the handle and suffix of a tag
- `scanDirective` — a directive, to the end of its line
-/

namespace ConfigSchema.Yaml

/-- The longest run of name characters, and what follows it. -/
def scanName (glyphs : List Glyph) : String × List Glyph :=
  let (name, rest) := glyphs.span (isNameChar ·.char)
  (.ofList (name.map (·.char)), rest)

/-- Whether an anchor may end before the text. -/
def endsAnchor : List Glyph → Bool
  | [] => true
  | g :: _ => isBlankOrBreak g.char || "?:,]\x7d%@\x60".toList.contains g.char

/-- Reads the name of an anchor or alias after its indicator. -/
def scanAnchor (finish : Mark) (glyphs : List Glyph) : Except Fault (String × List Glyph) :=
  let (name, rest) := scanName glyphs
  if !name.isEmpty && endsAnchor rest then .ok (name, rest)
  else .error (.at (hereOr finish rest) .anchorNameMissing)

/-! ## Tags -/

/-- Whether a tag may hold the character as it is. Inside angle brackets it may hold the
separators of flow collections too. -/
def isUriChar (verbatim : Bool) (c : Char) : Bool :=
  isNameChar c || ";/?:@&=+$.!~*\x27()".toList.contains c || (verbatim && ",[]".toList.contains c)

/-- How many bytes a character has whose first byte is `octet`, or zero. -/
def octetsFrom (octet : UInt8) : Nat :=
  if octet &&& 0x80 == 0 then 1
  else if octet &&& 0xE0 == 0xC0 then 2
  else if octet &&& 0xF0 == 0xE0 then 3
  else if octet &&& 0xF8 == 0xF0 then 4
  else 0

/-- Reads the characters of a tag. `due` is the number of escaped bytes that must follow at once,
because a character of several bytes has begun. -/
def scanUri (verbatim : Bool) (finish : Mark) (octets : Octets) (due : Nat) :
    List Glyph → Except Fault (Octets × List Glyph)
  | [] => if due == 0 then .ok (octets.reverse, []) else .error (.at finish .tagEscapeGarbled)
  | g :: rest =>
      if g.char == '%' then
        match rest with
        | g₁ :: g₂ :: rest₂ =>
            match hexValue? g₁.char, hexValue? g₂.char with
            | some high, some low =>
                let octet := UInt8.ofNat (high * 16 + low)
                if due == 0 then
                  let width := octetsFrom octet
                  if width == 0 then .error (.at g.mark .tagOctetLeading)
                  else scanUri verbatim finish (octet :: octets) (width - 1) rest₂
                else if octet &&& 0xC0 == 0x80 then
                  scanUri verbatim finish (octet :: octets) (due - 1) rest₂
                else
                  .error (.at g.mark .tagOctetTrailing)
            | _, _ => .error (.at g.mark .tagEscapeGarbled)
        | _ => .error (.at g.mark .tagEscapeGarbled)
      else if due != 0 then
        .error (.at g.mark .tagEscapeGarbled)
      else if isUriChar verbatim g.char then
        scanUri verbatim finish (UInt8.ofNat g.char.toNat :: octets) 0 rest
      else
        .ok (octets.reverse, g :: rest)

/-- Reads the characters of a tag, of which there must be one. -/
def scanUriNonempty (verbatim : Bool) (finish : Mark) (glyphs : List Glyph) :
    Except Fault (Octets × List Glyph) := do
  let (octets, rest) ← scanUri verbatim finish [] 0 glyphs
  if octets.isEmpty then throw (.at (hereOr finish rest) .tagUriMissing)
  return (octets, rest)

/-- The bytes before the first null. An escaped null ends what a tag says, though the tag itself
goes on. -/
def beforeNull (octets : Octets) : Octets := octets.takeWhile (· != 0)

/-- The bytes of an ASCII name. -/
def octetsOf (name : String) : Octets := name.toList.map (UInt8.ofNat ·.toNat)

/-- Reads the rest of a tag after `!<`. -/
def scanVerbatimTag (finish : Mark) (glyphs : List Glyph) :
    Except Fault (TokenKind × List Glyph) := do
  let (suffix, rest) ← scanUriNonempty true finish glyphs
  if startsWith '>' rest then return (.tag "" (beforeNull suffix), rest.drop 1)
  else throw (.at (hereOr finish rest) .tagBracketMissing)

/-- Reads the rest of a tag after `!`. A second `!` ends a handle; without it the name belongs to
the suffix, and the lone `!` is a tag of its own. -/
def scanShortTag (finish : Mark) (glyphs : List Glyph) :
    Except Fault (TokenKind × List Glyph) := do
  let (name, rest) := scanName glyphs
  if startsWith '!' rest then
    let (suffix, rest) ← scanUriNonempty false finish (rest.drop 1)
    return (.tag ("!" ++ name ++ "!") (beforeNull suffix), rest)
  else
    let (more, rest) ← scanUri false finish [] 0 rest
    let suffix := beforeNull (octetsOf name ++ more)
    if suffix.isEmpty then return (.tag "" (octetsOf "!"), rest)
    else return (.tag "!" suffix, rest)

/-- Reads a tag after its first `!`. A blank must follow it, or, between brackets, a comma. -/
def scanTag (inFlow : Bool) (finish : Mark) (glyphs : List Glyph) :
    Except Fault (TokenKind × List Glyph) := do
  let (kind, rest) ←
    if startsWith '<' glyphs then scanVerbatimTag finish (glyphs.drop 1)
    else scanShortTag finish glyphs
  if startsBlank rest || (inFlow && startsWith ',' rest) then return (kind, rest)
  else throw (.at (hereOr finish rest) .tagSpaceMissing)

/-! ## Directives -/

/-- Reads a number of a version, of at most nine digits. -/
def scanVersionNumber (finish : Mark) (glyphs : List Glyph) : Except Fault (Nat × List Glyph) :=
  let (digits, rest) := glyphs.span (·.char.isDigit)
  match digits.drop 9 with
  | tenth :: _ => .error (.at tenth.mark .versionTooLong)
  | [] =>
      if digits.isEmpty then .error (.at (hereOr finish rest) .versionDigitMissing)
      else .ok (digits.foldl (fun n g => n * 10 + (g.char.toNat - '0'.toNat)) 0, rest)

/-- Reads the numbers of a version directive. -/
def scanVersion (finish : Mark) (glyphs : List Glyph) :
    Except Fault (TokenKind × List Glyph) := do
  let (major, rest) ← scanVersionNumber finish (dropBlanks glyphs)
  if startsWith '.' rest then
    let (minor, rest) ← scanVersionNumber finish (rest.drop 1)
    return (.versionDirective major minor, rest)
  else
    throw (.at (hereOr finish rest) .versionDotMissing)

/-- Reads the handle that a tag directive declares: `!`, or a name between two of them. -/
def scanHandle (finish : Mark) (glyphs : List Glyph) : Except Fault (String × List Glyph) := do
  if !startsWith '!' glyphs then throw (.at (hereOr finish glyphs) .tagHandleMissing)
  let (name, rest) := scanName (glyphs.drop 1)
  if startsWith '!' rest then return ("!" ++ name ++ "!", rest.drop 1)
  else if name.isEmpty then return ("!", rest)
  else throw (.at (hereOr finish rest) .tagHandleOpen)

/-- Reads the handle of a tag directive and the text that it stands for. -/
def scanHandleMeaning (finish : Mark) (glyphs : List Glyph) :
    Except Fault (TokenKind × List Glyph) := do
  let (handle, rest) ← scanHandle finish (dropBlanks glyphs)
  if !(startsWith ' ' rest || startsWith '\t' rest) then
    throw (.at (hereOr finish rest) .tagSpaceMissing)
  let (lead, rest) ← scanUriNonempty true finish (dropBlanks rest)
  if startsBlank rest then return (.tagDirective handle (beforeNull lead), rest)
  else throw (.at (hereOr finish rest) .tagSpaceMissing)

/-- Reads a directive after its percent sign, with the line break that ends it. -/
def scanDirective (finish : Mark) (glyphs : List Glyph) :
    Except Fault (TokenKind × List Glyph) := do
  let (name, rest) := scanName glyphs
  if name.isEmpty then throw (.at (hereOr finish rest) .directiveNameMissing)
  if !startsBlank rest then throw (.at (hereOr finish rest) .directiveNameGarbled)
  let (kind, rest) ←
    if name == "YAML" then scanVersion finish rest
    else if name == "TAG" then scanHandleMeaning finish rest
    else throw (.at (hereOr finish rest) .directiveUnknown)
  let rest := dropComment (dropBlanks rest)
  if startsBreak rest then return (kind, dropBreak rest)
  else throw (.at (hereOr finish rest) .directiveTrailing)

end ConfigSchema.Yaml
