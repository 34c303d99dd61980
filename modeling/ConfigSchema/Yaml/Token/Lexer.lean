import ConfigSchema.Yaml.Scalar.Block
import ConfigSchema.Yaml.Scalar.Plain
import ConfigSchema.Yaml.Token.Name

/-!
# From text to tokens

A colon shows only afterwards that the node before it was a key. The lexer therefore holds tokens
back while one of them may still turn out to be a key, and releases them when that is settled.

## Main definitions

- `Lexer` — the text to come, the tokens held back, and what indentation and brackets are open
- `Lexer.fetch` — reads one more sign
- `Lexer.run`, `tokenize` — all tokens of a text, and the fault that ends them, if any

## Design notes

A possible key is remembered with the number that its `key` token would take. It lapses at the end
of its line, and after 1024 bytes. A node at the column of the open block collection must be a key,
so there the lapse is a fault.
-/

namespace ConfigSchema.Yaml

/-! ## Possible keys -/

/-- A node that may turn out to be a key. -/
structure PossibleKey where
  /-- Whether no other reading of the text is left. -/
  required : Bool
  /-- The number of the token that would announce the key. -/
  number : Nat
  mark : Mark
deriving DecidableEq, Repr

/-- Whether a possible key has lapsed at `mark`. -/
def PossibleKey.isStale (key : PossibleKey) (mark : Mark) : Bool :=
  key.mark.line < mark.line || key.mark.offset + 1024 < mark.offset

/-- Gives a possible key up, which is a fault if it is required. -/
def abandonKey (mark : Mark) : Option PossibleKey → Except Fault Unit
  | none => .ok ()
  | some key => if key.required then .error (.at mark .missingColon) else .ok ()

/-- A possible key as it stands at `mark`. -/
def expireKey (mark : Mark) : Option PossibleKey → Except Fault (Option PossibleKey)
  | none => .ok none
  | some key =>
      if key.isStale mark then do
        abandonKey mark (some key)
        return none
      else
        return some key

/-! ## The state -/

/-- The state between two signs. -/
structure Lexer where
  rest : List Glyph
  /-- The tokens held back, in order. -/
  held : List Token := []
  /-- How many tokens have been released. -/
  released : Nat := 0
  /-- The columns of the open block collections, the innermost first. -/
  indents : List Nat := []
  /-- The possible key at the innermost level of brackets. -/
  key : Option PossibleKey := none
  /-- The possible keys at the outer levels of brackets, the innermost first. -/
  outerKeys : List (Option PossibleKey) := []
  /-- Whether a key may start here. -/
  keyAllowed : Bool := true
  /-- Whether the token that ends the text has been read. -/
  ended : Bool := false

namespace Lexer

/-- Whether a bracket is open. -/
def inFlow (lexer : Lexer) : Bool := !lexer.outerKeys.isEmpty

/-- The least column of text that belongs to the innermost block collection. -/
def margin (lexer : Lexer) : Nat := lexer.indents.head?.elim 0 (· + 1)

/-- The place of the end of a text: always the start of a line. -/
def endMark (finish : Mark) : Mark :=
  if finish.column == 0 then finish else finish.nextLine 0

/-- The place that the lexer has come to. -/
def mark (finish : Mark) (lexer : Lexer) : Mark :=
  if lexer.ended then endMark finish else hereOr finish lexer.rest

/-- The state after a further token. -/
def push (lexer : Lexer) (kind : TokenKind) (mark : Mark) : Lexer :=
  { lexer with held := lexer.held ++ [⟨kind, mark⟩] }

/-- The state after a token that takes the given number, before tokens read earlier. -/
def insertAt (lexer : Lexer) (number : Nat) (kind : TokenKind) (mark : Mark) : Lexer :=
  { lexer with held := lexer.held.insertIdx (number - lexer.released) ⟨kind, mark⟩ }

/-- The state after `count` glyphs of a sign have been passed. -/
def skip (lexer : Lexer) (count : Nat) : Lexer := { lexer with rest := lexer.rest.drop count }

/-- Gives up the possible key of the innermost level. -/
def dropKey (lexer : Lexer) (mark : Mark) : Except Fault Lexer := do
  abandonKey mark lexer.key
  return { lexer with key := none }

/-- Gives up the possible keys that have lapsed at `mark`, at every level. -/
def expireKeys (lexer : Lexer) (mark : Mark) : Except Fault Lexer := do
  let outerKeys ← lexer.outerKeys.mapM (expireKey mark)
  let key ← expireKey mark lexer.key
  return { lexer with key := key, outerKeys := outerKeys }

/-- Remembers that the node at `mark` may be a key. -/
def saveKey (lexer : Lexer) (mark : Mark) : Except Fault Lexer :=
  if lexer.keyAllowed then do
    let required := !lexer.inFlow && lexer.indents.head? == some mark.column
    let number := lexer.released + lexer.held.length
    let lexer ← lexer.dropKey mark
    return { lexer with key := some ⟨required, number, mark⟩ }
  else
    return lexer

/-! ## Indentation -/

/-- Whether a block collection at `column` lies inside the open ones. -/
def opensBlock (lexer : Lexer) (column : Nat) : Bool :=
  !lexer.inFlow && lexer.indents.head?.all (· < column)

/-- Opens a block collection at the column of `mark`, unless one is open there. -/
def openBlock (lexer : Lexer) (kind : TokenKind) (mark : Mark) : Lexer :=
  if lexer.opensBlock mark.column then
    { lexer.push kind mark with indents := mark.column :: lexer.indents }
  else
    lexer

/-- Opens a block mapping before the token with the given number, unless one is open at the column
of its first key. -/
def openBlockAt (lexer : Lexer) (number : Nat) (mark : Mark) : Lexer :=
  if lexer.opensBlock mark.column then
    { lexer.insertAt number .blockMappingStart mark with
      indents := mark.column :: lexer.indents }
  else
    lexer

/-- Closes the block collections whose column satisfies `isInner`, from the innermost on. -/
def closeBlocks (lexer : Lexer) (mark : Mark) (isInner : Nat → Bool) : Lexer :=
  if lexer.inFlow then
    lexer
  else
    let (closing, others) := lexer.indents.span isInner
    { lexer with
      held := lexer.held ++ closing.map fun _ => ⟨.blockEnd, mark⟩
      indents := others }

/-! ## Signs -/

/-- The text from the next sign on, past blanks, comments, line breaks and a byte order mark at the
start of a line, and whether a key may start there. Tabs may not indent a line on which a key may
start. -/
def toNextSign (inFlow keyAllowed inComment : Bool) : List Glyph → Bool × List Glyph
  | [] => (keyAllowed, [])
  | g :: rest =>
      if isBreak g.char then toNextSign inFlow (keyAllowed || !inFlow) false rest
      else if inComment then toNextSign inFlow keyAllowed true rest
      else if g.char == ' ' || (g.char == '\t' && (inFlow || !keyAllowed)) then
        toNextSign inFlow keyAllowed false rest
      else if g.char == '#' then toNextSign inFlow keyAllowed true rest
      else if g.char == byteOrderMark && g.mark.column == 0 then
        toNextSign inFlow keyAllowed false rest
      else (keyAllowed, g :: rest)

/-- Reads the end of the text. -/
def fetchEnd (lexer : Lexer) (finish : Mark) : Except Fault Lexer := do
  let mark := endMark finish
  let lexer ← (lexer.closeBlocks mark fun _ => true).dropKey mark
  return { lexer.push .streamEnd mark with keyAllowed := false, ended := true }

/-- Reads a directive. -/
def fetchDirective (lexer : Lexer) (finish mark : Mark) : Except Fault Lexer := do
  let lexer ← (lexer.closeBlocks mark fun _ => true).dropKey mark
  let (kind, rest) ← scanDirective finish (lexer.rest.drop 1)
  return { lexer.push kind mark with rest := rest, keyAllowed := false }

/-- Reads a line that starts or ends a document. -/
def fetchDocumentMarker (lexer : Lexer) (kind : TokenKind) (mark : Mark) : Except Fault Lexer := do
  let lexer ← (lexer.closeBlocks mark fun _ => true).dropKey mark
  return { (lexer.push kind mark).skip 3 with keyAllowed := false }

/-- Reads an opening bracket. -/
def fetchFlowStart (lexer : Lexer) (kind : TokenKind) (mark : Mark) : Except Fault Lexer := do
  let lexer ← lexer.saveKey mark
  return { (lexer.push kind mark).skip 1 with
    key := none, outerKeys := lexer.key :: lexer.outerKeys, keyAllowed := true }

/-- Reads a closing bracket, which may lack an opening one. -/
def fetchFlowEnd (lexer : Lexer) (kind : TokenKind) (mark : Mark) : Except Fault Lexer := do
  let lexer ← lexer.dropKey mark
  return { (lexer.push kind mark).skip 1 with
    key := lexer.outerKeys.head?.join, outerKeys := lexer.outerKeys.drop 1, keyAllowed := false }

/-- Reads a comma between brackets. -/
def fetchFlowEntry (lexer : Lexer) (mark : Mark) : Except Fault Lexer := do
  let lexer ← lexer.dropKey mark
  return { (lexer.push .flowEntry mark).skip 1 with keyAllowed := true }

/-- Reads the indicator of a sequence entry. -/
def fetchBlockEntry (lexer : Lexer) (mark : Mark) : Except Fault Lexer := do
  if !lexer.inFlow && !lexer.keyAllowed then throw (.at mark .misplacedEntry)
  let lexer ← (lexer.openBlock .blockSequenceStart mark).dropKey mark
  return { (lexer.push .blockEntry mark).skip 1 with keyAllowed := true }

/-- Reads the indicator of a key. -/
def fetchKey (lexer : Lexer) (mark : Mark) : Except Fault Lexer := do
  if !lexer.inFlow && !lexer.keyAllowed then throw (.at mark .misplacedKey)
  let lexer ← (lexer.openBlock .blockMappingStart mark).dropKey mark
  return { (lexer.push .key mark).skip 1 with keyAllowed := !lexer.inFlow }

/-- Reads the indicator of a value, which settles that the possible key is one. -/
def fetchValue (lexer : Lexer) (mark : Mark) : Except Fault Lexer :=
  match lexer.key with
  | some key =>
      let lexer := (lexer.insertAt key.number .key key.mark).openBlockAt key.number key.mark
      return { (lexer.push .value mark).skip 1 with key := none, keyAllowed := false }
  | none => do
      if !lexer.inFlow && !lexer.keyAllowed then throw (.at mark .misplacedValue)
      let lexer := lexer.openBlock .blockMappingStart mark
      return { (lexer.push .value mark).skip 1 with keyAllowed := !lexer.inFlow }

/-- Reads an anchor or an alias. -/
def fetchAnchor (lexer : Lexer) (kind : String → TokenKind) (finish mark : Mark) :
    Except Fault Lexer := do
  let lexer ← lexer.saveKey mark
  let (name, rest) ← scanAnchor finish (lexer.rest.drop 1)
  return { lexer.push (kind name) mark with rest := rest, keyAllowed := false }

/-- Reads a tag. -/
def fetchTag (lexer : Lexer) (finish mark : Mark) : Except Fault Lexer := do
  let lexer ← lexer.saveKey mark
  let (kind, rest) ← scanTag lexer.inFlow finish (lexer.rest.drop 1)
  return { lexer.push kind mark with rest := rest, keyAllowed := false }

/-- Reads a block scalar. -/
def fetchBlockScalar (lexer : Lexer) (literal : Bool) (finish mark : Mark) :
    Except Fault Lexer := do
  let lexer ← lexer.dropKey mark
  let (text, rest) ← scanBlock literal lexer.indents.head? finish (lexer.rest.drop 1)
  return { lexer.push (.scalar text false) mark with rest := rest, keyAllowed := true }

/-- Reads a quoted scalar. -/
def fetchQuoted (lexer : Lexer) (double : Bool) (finish mark : Mark) : Except Fault Lexer := do
  let lexer ← lexer.saveKey mark
  let (text, rest) ← scanQuoted double finish [] {} none (lexer.rest.drop 1)
  return { lexer.push (.scalar text false) mark with rest := rest, keyAllowed := false }

/-- Reads a plain scalar. A key may start on the line after it. -/
def fetchPlain (lexer : Lexer) (mark : Mark) : Except Fault Lexer := do
  let lexer ← lexer.saveKey mark
  let scan ← scanPlain lexer.inFlow lexer.margin [] {} lexer.rest
  return { lexer.push (.scalar scan.text true) mark with
    rest := scan.rest, keyAllowed := scan.crossedLine }

/-- Whether a plain scalar may start with `c` before `rest`. -/
def startsPlain (inFlow : Bool) (c : Char) (rest : List Glyph) : Bool :=
  !(isBlankOrBreak c || "-?:,[]\x7b\x7d#&*!|>\x27\x22%@\x60".toList.contains c) ||
    (c == '-' && !(startsWith ' ' rest || startsWith '\t' rest)) ||
    (!inFlow && (c == '?' || c == ':') && !startsBlank rest)

/-- The state at the next sign of the text. -/
def arrive (finish : Mark) (lexer : Lexer) : Except Fault Lexer :=
  let (keyAllowed, rest) := toNextSign lexer.inFlow lexer.keyAllowed false lexer.rest
  { lexer with rest := rest, keyAllowed := keyAllowed }.expireKeys (hereOr finish rest)

/-- Reads the sign at `mark`, to which the lexer has come. -/
def dispatch (finish mark : Mark) (lexer : Lexer) : Except Fault Lexer :=
  match lexer.rest with
  | [] => lexer.fetchEnd finish
  | g :: after =>
      let flow := lexer.inFlow
      if mark.column == 0 && g.char == '%' then lexer.fetchDirective finish mark
      else if startsMarker '-' lexer.rest then lexer.fetchDocumentMarker .documentStart mark
      else if startsMarker '.' lexer.rest then lexer.fetchDocumentMarker .documentEnd mark
      else if g.char == '[' then lexer.fetchFlowStart .flowSequenceStart mark
      else if g.char == '\x7b' then lexer.fetchFlowStart .flowMappingStart mark
      else if g.char == ']' then lexer.fetchFlowEnd .flowSequenceEnd mark
      else if g.char == '\x7d' then lexer.fetchFlowEnd .flowMappingEnd mark
      else if g.char == ',' then lexer.fetchFlowEntry mark
      else if g.char == '-' && startsBlank after then lexer.fetchBlockEntry mark
      else if g.char == '?' && (flow || startsBlank after) then lexer.fetchKey mark
      else if g.char == ':' && (flow || startsBlank after) then lexer.fetchValue mark
      else if g.char == '*' then lexer.fetchAnchor .alias finish mark
      else if g.char == '&' then lexer.fetchAnchor .anchor finish mark
      else if g.char == '!' then lexer.fetchTag finish mark
      else if g.char == '|' && !flow then lexer.fetchBlockScalar true finish mark
      else if g.char == '>' && !flow then lexer.fetchBlockScalar false finish mark
      else if g.char == '\x27' then lexer.fetchQuoted false finish mark
      else if g.char == '\x22' then lexer.fetchQuoted true finish mark
      else if startsPlain flow g.char after then lexer.fetchPlain mark
      else .error (.at mark .noTokenStart)

/-- Reads the sign to which the lexer has come; a sign closes the blocks that are indented more. -/
def act (finish : Mark) (lexer : Lexer) : Except Fault Lexer :=
  let mark := hereOr finish lexer.rest
  (lexer.closeBlocks mark (mark.column < ·)).dispatch finish mark

/-- Reads the next sign of the text. -/
def fetch (finish : Mark) (lexer : Lexer) : Except Fault Lexer := do
  (← lexer.arrive finish).act finish

/-! ## All tokens -/

/-- The number of the first token that may still be preceded by another. -/
def firstPossibleKey (lexer : Lexer) : Option Nat :=
  (lexer.key :: lexer.outerKeys).filterMap (·.map PossibleKey.number) |>.min?

/-- Releases the tokens before every possible key. -/
def release (lexer : Lexer) : List Token × Lexer :=
  let count := match lexer.firstPossibleKey with
    | some number => number - lexer.released
    | none => lexer.held.length
  let ready := lexer.held.take count
  (ready, { lexer with
    held := lexer.held.drop count, released := lexer.released + ready.length })

/-- The tokens from a state on, and the fault that ends them, if any. Each sign takes one unit of
`fuel`. -/
def run (finish : Mark) : (fuel : Nat) → Lexer → List Token × Option Fault
  | 0, _ => ([], none)
  | fuel + 1, lexer =>
      match lexer.expireKeys (lexer.mark finish) with
      | .error fault => ([], some fault)
      | .ok lexer =>
          let (ready, lexer) := lexer.release
          if lexer.ended then
            (ready, none)
          else
            match lexer.fetch finish with
            | .error fault => (ready, some fault)
            | .ok lexer =>
                let (later, fault) := lexer.run finish fuel
                (ready ++ later, fault)

end Lexer

/-- The tokens of a text, and the fault that ends them, if any. Every sign but the end of the text
takes at least one glyph, so the fuel lasts. -/
def tokenize (source : Source) : List Token × Option Fault :=
  Lexer.run source.finish (source.glyphs.length + 2) { rest := source.glyphs }

end ConfigSchema.Yaml
