import ConfigSchema.Decimal.Read
import ConfigSchema.Pattern.CharClass.Property
import ConfigSchema.Pattern.Read.Options
import ConfigSchema.Pattern.Regex

/-!
# Escapes of patterns

A backslash takes the meaning of a mark of the pattern away, or gives one to a letter.

## Main definitions

- `Escaped` — what an escape stands for
- `readEscape?` — reads the escape after a backslash
-/

namespace ConfigSchema.Pattern

open ConfigSchema.Text (CharRanges)

/-- What an escape stands for. -/
inductive Escaped where
  /-- A character; `byte` says that two hexadecimal digits give it. -/
  | char (c : Char) (byte : Bool)
  | set (set : CharRanges)
  | look (condition : Look)
deriving Repr

/-- The character with a code point. Surrogates are none. -/
def charOf? (n : Nat) : Option Char := if n.isValidChar then some (.ofNat n) else none

/-- Reads hexadecimal digits, `count` of them. -/
def readHexDigits? (opts : Options) : (count : Nat) → (digits : List Char) → List Char →
    Option (List Char × List Char)
  | 0, digits, cs => some (digits.reverse, cs)
  | _, _, [] => none
  | count + 1, digits, c :: cs => do
      let _ ← digitValue? 16 c
      readHexDigits? opts count (c :: digits) (opts.skip cs)

/-- Reads hexadecimal digits up to a closing brace. Each takes one unit of `fuel`. -/
def readHexBraces? (opts : Options) : (fuel : Nat) → (digits : List Char) → List Char →
    Option (List Char × List Char)
  | 0, _, _ => none
  | _, _, [] => none
  | fuel + 1, digits, c :: cs => do
      if c == '\x7d' then return (digits.reverse, cs)
      let _ ← digitValue? 16 c
      readHexBraces? opts fuel (c :: digits) (opts.skip cs)

/-- Reads a code point: in braces, or of `count` digits. -/
def readCode? (opts : Options) (count : Nat) (cs : List Char) : Option (Escaped × List Char) := do
  match opts.skip cs with
  | '\x7b' :: cs =>
      let (digits, cs) ← readHexBraces? opts (cs.length + 1) [] (opts.skip cs)
      return (.char (← charOf? (← readNat? 16 digits)) false, cs)
  | cs =>
      let (digits, cs) ← readHexDigits? opts count [] cs
      return (.char (← charOf? (← readNat? 16 digits)) (count == 2), cs)

/-- Reads a name up to a closing brace. Each character takes one unit of `fuel`. -/
def readBraced? (opts : Options) : (fuel : Nat) → (name : List Char) → List Char →
    Option (List Char × List Char)
  | 0, _, _ => none
  | _, _, [] => none
  | fuel + 1, name, c :: cs =>
      if c == '\x7d' then some (name.reverse, cs)
      else readBraced? opts fuel (c :: name) (opts.skip cs)

/-- A class after the rules for case and for negation. -/
def settle (opts : Options) (negated : Bool) (set : CharRanges) : CharRanges :=
  let set := if opts.ignoreCase then CharClass.caseless opts.unicode set else set
  if negated then set.compl else set

/-- Reads the name of a property: one character, or several between braces. -/
def readProperty? (opts : Options) (negated : Bool) (cs : List Char) :
    Option (Escaped × List Char) := do
  let (name, cs) ← match opts.skip cs with
    | '\x7b' :: cs => readBraced? opts (cs.length + 1) [] (opts.skip cs)
    | '\\' :: _ => none
    | c :: cs => pure ([c], cs)
    | [] => none
  let (set, differs) ← CharClass.property? name
  guard opts.unicode
  return (.set (settle opts (negated != differs) set), cs)

/-- A class of escapes; without characters of all scripts it can only be negated as a part of
bytes, which are no text. -/
def escapedClass? (opts : Options) (negated : Bool) (set : CharRanges) : Option Escaped :=
  if negated then
    if opts.unicode then some (.set set.compl) else none
  else some (.set set)

/-- The marks that have a meaning in patterns. -/
def isMark (c : Char) : Bool := "\\.+*?()|[]\x7b\x7d^$#&-~".toList.contains c

/-- Whether a backslash before a character just stands for the character. -/
def isEscapable (c : Char) : Bool :=
  isMark c || (c.toNat < 0x80 && !c.isAlphanum && c != '<' && c != '>')

/-- Reads the letters and dashes of a name in braces. Each takes one unit of `fuel`. -/
def readBoundaryName (opts : Options) : (fuel : Nat) → (name : List Char) → List Char →
    List Char × List Char
  | 0, name, cs => (name.reverse, cs)
  | _, name, [] => (name.reverse, [])
  | fuel + 1, name, c :: cs =>
      if c.isAlpha || c == '-' then readBoundaryName opts fuel (c :: name) (opts.skip cs)
      else (name.reverse, c :: cs)

/-- Reads the name in braces that may follow a word boundary. What begins like a repetition is left
alone. -/
def readBoundary? (opts : Options) (cs : List Char) : Option (Escaped × List Char) :=
  let plain := some (Escaped.look (.wordBoundary opts.unicode), cs)
  match cs with
  | '\x7b' :: inner =>
      match opts.skip inner with
      | [] => none
      | c :: after =>
          if !(c.isAlpha || c == '-') then plain
          else do
            let (name, rest) := readBoundaryName opts (after.length + 1) [] (c :: after)
            guard (rest.head? == some '\x7d')
            let look : Look ← match String.ofList name with
              | "start" => some (.wordStart opts.unicode)
              | "end" => some (.wordEnd opts.unicode)
              | "start-half" => some (.wordStartHalf opts.unicode)
              | "end-half" => some (.wordEndHalf opts.unicode)
              | _ => none
            return (.look look, rest.tail)
  | _ => plain

/-- Reads the escape after a backslash. -/
def readEscape? (opts : Options) : List Char → Option (Escaped × List Char)
  | [] => none
  | c :: cs =>
      let char (code : Nat) : Option (Escaped × List Char) := some (.char (.ofNat code) false, cs)
      let look (condition : Look) : Option (Escaped × List Char) := some (.look condition, cs)
      let named (negated : Bool) (set : CharRanges) : Option (Escaped × List Char) :=
        (escapedClass? opts negated set).map (·, cs)
      match c with
      | 'x' => readCode? opts 2 cs
      | 'u' => readCode? opts 4 cs
      | 'U' => readCode? opts 8 cs
      | 'p' => readProperty? opts false cs
      | 'P' => readProperty? opts true cs
      | 'd' => named false (CharClass.digits opts.unicode)
      | 'D' => named true (CharClass.digits opts.unicode)
      | 's' => named false (CharClass.spaces opts.unicode)
      | 'S' => named true (CharClass.spaces opts.unicode)
      | 'w' => named false (CharClass.wordChars opts.unicode)
      | 'W' => named true (CharClass.wordChars opts.unicode)
      | 'a' => char 0x07
      | 'f' => char 0x0C
      | 't' => char 0x09
      | 'n' => char 0x0A
      | 'r' => char 0x0D
      | 'v' => char 0x0B
      | 'A' => look .textStart
      | 'z' => look .textEnd
      | 'b' => readBoundary? opts cs
      | 'B' => look (.notWordBoundary opts.unicode)
      | '<' => look (.wordStart opts.unicode)
      | '>' => look (.wordEnd opts.unicode)
      | _ => if isEscapable c then some (.char c false, cs) else none

end ConfigSchema.Pattern
