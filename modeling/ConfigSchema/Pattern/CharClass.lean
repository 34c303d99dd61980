import ConfigSchema.Pattern.CharClass.Table
import ConfigSchema.Text.Case.Fold

/-!
# Character classes

The sets of characters that patterns give a letter or a short name to, and the rule for case.

## Main definitions

- `CharClass.caseless` — a set without regard to case
- `CharClass.digits`, `CharClass.spaces`, `CharClass.wordChars` — classes with a letter
- `CharClass.ascii?` — classes of ASCII with a name
-/

namespace ConfigSchema.Pattern.CharClass

open ConfigSchema.Text (CharRanges)

/-! ## Case -/

/-- The letters of ASCII that differ from a code point by case at most, and the code point. -/
def asciiVariants (n : Nat) : List Nat :=
  if 0x41 ≤ n && n ≤ 0x5A then [n, n + 32]
  else if 0x61 ≤ n && n ≤ 0x7A then [n, n - 32]
  else [n]

/-- The code points that differ from one by case at most. -/
def variants (unicode : Bool) (n : Nat) : List Nat :=
  if unicode then Text.caseVariants n else asciiVariants n

/-- The code points that differ from another one by case only. -/
def caseVarying (unicode : Bool) : CharRanges :=
  if unicode then Text.foldedRanges else [(0x41, 0x5A), (0x61, 0x7A)]

/-- The characters that differ from one in the set by case at most. -/
def caseless (unicode : Bool) (set : CharRanges) : CharRanges :=
  set.union (.ofCodes ((set.inter (caseVarying unicode)).codes.flatMap (variants unicode)))

/-! ## Classes with a letter or a name -/

/-- Whether the set has members of ASCII only. -/
def isAscii (set : CharRanges) : Bool := set.all (·.2 < 0x80)

/-- The white space of ASCII. -/
def asciiSpaces : CharRanges := [(0x09, 0x0D), (0x20, 0x20)]

/-- The word characters of ASCII. -/
def asciiWord : CharRanges := [(0x30, 0x39), (0x41, 0x5A), (0x5F, 0x5F), (0x61, 0x7A)]

/-- The white space of Unicode. -/
def unicodeSpaces : CharRanges :=
  [(0x09, 0x0D), (0x20, 0x20), (0x85, 0x85), (0xA0, 0xA0), (0x1680, 0x1680), (0x2000, 0x200A),
    (0x2028, 0x2029), (0x202F, 0x202F), (0x205F, 0x205F), (0x3000, 0x3000)]

/-- The decimal digits. -/
def digits (unicode : Bool) : CharRanges := if unicode then digitRanges else [(0x30, 0x39)]

/-- The white space. -/
def spaces (unicode : Bool) : CharRanges := if unicode then unicodeSpaces else asciiSpaces

/-- The characters of words. -/
def wordChars (unicode : Bool) : CharRanges := if unicode then wordRanges else asciiWord

/-- The classes of ASCII that brackets with colons name. -/
def ascii? : String → Option CharRanges
  | "alnum" => some [(0x30, 0x39), (0x41, 0x5A), (0x61, 0x7A)]
  | "alpha" => some [(0x41, 0x5A), (0x61, 0x7A)]
  | "ascii" => some [(0x00, 0x7F)]
  | "blank" => some [(0x09, 0x09), (0x20, 0x20)]
  | "cntrl" => some [(0x00, 0x1F), (0x7F, 0x7F)]
  | "digit" => some [(0x30, 0x39)]
  | "graph" => some [(0x21, 0x7E)]
  | "lower" => some [(0x61, 0x7A)]
  | "print" => some [(0x20, 0x7E)]
  | "punct" => some [(0x21, 0x2F), (0x3A, 0x40), (0x5B, 0x60), (0x7B, 0x7E)]
  | "space" => some asciiSpaces
  | "upper" => some [(0x41, 0x5A)]
  | "word" => some asciiWord
  | "xdigit" => some [(0x30, 0x39), (0x41, 0x46), (0x61, 0x66)]
  | _ => none

end ConfigSchema.Pattern.CharClass
