import ConfigSchema.Text.Blank

/-!
# Options of patterns

Letters between `(?` and `)` or `:` switch options on, and off after a dash.

## Main definitions

- `Options` — what is switched on
- `Options.skip` — passes over white space and comments where a pattern is spaced out
- `readFlags?` — the options that letters switch
-/

namespace ConfigSchema.Pattern

/-- How a part of a pattern is to be read. -/
structure Options where
  /-- Letters match in either case. -/
  ignoreCase : Bool := false
  /-- The anchors of lines match at every line. -/
  multiline : Bool := false
  /-- A dot matches the ends of lines too. -/
  dotAll : Bool := false
  /-- Classes hold characters of all scripts. -/
  unicode : Bool := true
  /-- A carriage return ends lines too. -/
  crlf : Bool := false
  /-- Repetitions are tried less often first, unless a question mark follows. -/
  lazy : Bool := false
  /-- White space and comments are passed over. -/
  spaced : Bool := false
deriving DecidableEq, Repr

/-- The characters after a comment, which ends with its line. -/
def afterComment : List Char → List Char
  | [] => []
  | c :: cs => if c == '\n' then cs else afterComment cs

/-- The characters after white space and comments. Every step takes at least one character, so the
number of characters is enough `fuel`. -/
def afterSpace : (fuel : Nat) → List Char → List Char
  | 0, cs => cs
  | _, [] => []
  | fuel + 1, c :: cs =>
      if Text.isWhite c then afterSpace fuel cs
      else if c == '#' then afterSpace fuel (afterComment cs)
      else c :: cs

/-- The characters from the next one that counts. -/
def Options.skip (opts : Options) (cs : List Char) : List Char :=
  if opts.spaced then afterSpace cs.length cs else cs

/-- Switches the option of a letter. -/
def Options.switch? (opts : Options) (on : Bool) : Char → Option Options
  | 'i' => some { opts with ignoreCase := on }
  | 'm' => some { opts with multiline := on }
  | 's' => some { opts with dotAll := on }
  | 'U' => some { opts with lazy := on }
  | 'u' => some { opts with unicode := on }
  | 'R' => some { opts with crlf := on }
  | 'x' => some { opts with spaced := on }
  | _ => none

/-- Reads letters up to the `:` or `)` after them, which stays. No letter comes twice, and a dash
comes once at most and before a letter; `seen` are the letters so far, the last first. -/
def readFlags? (opts : Options) : (seen : List Char) → List Char →
    Option (Options × List Char × List Char)
  | _, [] => none
  | seen, c :: cs =>
      if c == ':' || c == ')' then
        if seen.head? == some '-' then none else some (opts, seen, c :: cs)
      else if seen.contains c then none
      else if c == '-' then readFlags? opts (c :: seen) cs
      else do readFlags? (← opts.switch? (!seen.contains '-') c) (c :: seen) cs

end ConfigSchema.Pattern
