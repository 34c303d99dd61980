import ConfigSchema.Yaml.Scalar.Gap

/-!
# Quoted scalars

Between single quotes every character stands for itself and a quote is written twice. Between
double quotes a backslash starts an escape: of one character, of a code in two, four or eight
hexadecimal digits, or of a line break.

## Main definitions

- `unescape?` — the character that an escape of one character stands for
- `scanQuoted` — the text of a quoted scalar and what follows its closing quote
-/

namespace ConfigSchema.Yaml

/-- The character that a backslash followed by `c` stands for. -/
def unescape? (c : Char) : Option Char :=
  match c with
  | '0' => some '\x00'
  | 'a' => some '\x07'
  | 'b' => some '\x08'
  | 't' => some '\t'
  | '\t' => some '\t'
  | 'n' => some '\n'
  | 'v' => some '\x0b'
  | 'f' => some '\x0c'
  | 'r' => some '\r'
  | 'e' => some '\x1b'
  | ' ' => some ' '
  | '\x22' => some '\x22'
  | '/' => some '/'
  | '\\' => some '\\'
  | 'N' => some '\u0085'
  | '_' => some '\u00a0'
  | 'L' => some '\u2028'
  | 'P' => some '\u2029'
  | _ => none

/-- How many hexadecimal digits follow a backslash and `c`. -/
def codeLength? (c : Char) : Option Nat :=
  match c with
  | 'x' => some 2
  | 'u' => some 4
  | 'U' => some 8
  | _ => none

/-- The value of a hexadecimal digit. -/
def hexValue? (c : Char) : Option Nat :=
  if c.isDigit then some (c.toNat - '0'.toNat)
  else if 'a' ≤ c && c ≤ 'f' then some (c.toNat - 'a'.toNat + 10)
  else if 'A' ≤ c && c ≤ 'F' then some (c.toNat - 'A'.toNat + 10)
  else none

/-- The character with a code point, unless the code point is a surrogate or too large. -/
def charOfCode? (n : Nat) : Option Char :=
  if n.isValidChar then some (.ofNat n) else none

/-- A numeric escape that is being read: the digits to come, the value so far, and the place of
its first digit. -/
structure CodeScan where
  digits : Nat
  value : Nat
  mark : Mark

/-- Reads a quoted scalar after its opening quote. `text` is what has been read so far, its last
character first, `gap` what came after it, and `code` an escape that is not complete. -/
def scanQuoted (double : Bool) (finish : Mark) (text : List Char) (gap : Gap)
    (code : Option CodeScan) : List Glyph → Except Fault (String × List Glyph)
  | [] =>
      match code with
      | some run => .error (.at run.mark .escapeDigitMissing)
      | none => .error (.at finish .quotedOpen)
  | g :: rest =>
      match code with
      | some run =>
          match hexValue? g.char with
          | none => .error (.at run.mark .escapeDigitMissing)
          | some digit =>
              let value := run.value * 16 + digit
              if run.digits ≤ 1 then
                match charOfCode? value with
                | some c => scanQuoted double finish (c :: text) {} none rest
                | none => .error (.at run.mark .escapeCodeInvalid)
              else
                scanQuoted double finish text gap (some ⟨run.digits - 1, value, run.mark⟩) rest
      | none =>
          if isBlank g.char then
            scanQuoted double finish text (gap.addBlank g.char) none rest
          else if isBreak g.char then
            scanQuoted double finish text (gap.addBreak g.char) none rest
          else if startsDocumentMarker (g :: rest) then
            .error (.at g.mark .quotedDocumentMarker)
          else
            let read := gap.folded ++ text
            if !double && g.char == '\x27' then
              match rest with
              | g₂ :: rest₂ =>
                  if g₂.char == '\x27' then
                    scanQuoted double finish ('\x27' :: read) {} none rest₂
                  else
                    .ok (.ofList read.reverse, rest)
              | [] => .ok (.ofList read.reverse, [])
            else if double && g.char == '\x22' then
              .ok (.ofList read.reverse, rest)
            else if double && g.char == '\\' then
              match rest with
              | [] => .error (.at g.mark .escapeUnknown)
              | e :: rest₂ =>
                  if isBreak e.char then
                    scanQuoted double finish read .escaped none rest₂
                  else
                    match unescape? e.char with
                    | some c => scanQuoted double finish (c :: read) {} none rest₂
                    | none =>
                        match codeLength? e.char with
                        | some digits =>
                            let run := ⟨digits, 0, hereOr finish rest₂⟩
                            scanQuoted double finish read {} (some run) rest₂
                        | none => .error (.at g.mark .escapeUnknown)
            else
              scanQuoted double finish (g.char :: read) {} none rest

end ConfigSchema.Yaml
