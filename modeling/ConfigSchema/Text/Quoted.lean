/-!
# Quoted text

Two ways of writing a text between double quotes on one line: as JSON, and as JSON that is safe in
YAML, where further characters break lines or are refused.

## Main definitions

- `jsonQuoted` — a text as a JSON string
- `breaksYaml` — the characters that YAML text may not hold as they are
- `yamlQuoted` — a text as a JSON string without such characters
-/

namespace ConfigSchema.Text

/-- The digits of a number in base 16, at least four of them. -/
def hexCode (upper : Bool) (n : Nat) : List Char :=
  let digits := (Nat.toDigits 16 n).map fun c => if upper then c.toUpper else c
  List.replicate (4 - digits.length) '0' ++ digits

/-- A character as it stands in a JSON string. -/
def jsonEscape (c : Char) : List Char :=
  if c == '\x22' then ['\\', '\x22']
  else if c == '\\' then ['\\', '\\']
  else if c == '\x08' then ['\\', 'b']
  else if c == '\x0c' then ['\\', 'f']
  else if c == '\n' then ['\\', 'n']
  else if c == '\r' then ['\\', 'r']
  else if c == '\t' then ['\\', 't']
  else if c.toNat < 0x20 then '\\' :: 'u' :: hexCode false c.toNat
  else [c]

/-- Whether a reader of YAML takes the character for a line break or refuses it, although JSON
leaves it as it is. -/
def breaksYaml (c : Char) : Bool :=
  let n := c.toNat
  (0x7F ≤ n && n ≤ 0x9F) || n == 0x2028 || n == 0x2029 || n == 0xFEFF || n == 0xFFFE ||
    n == 0xFFFF

/-- A character as it stands in a quoted YAML scalar. -/
def yamlEscape (c : Char) : List Char :=
  if breaksYaml c then '\\' :: 'u' :: hexCode true c.toNat else jsonEscape c

/-- The text of all characters between double quotes, each escaped. -/
def quotedBy (escape : Char → List Char) (text : String) : String :=
  .ofList ('\x22' :: text.toList.flatMap escape ++ ['\x22'])

/-- A text as a JSON string. -/
def jsonQuoted (text : String) : String := quotedBy jsonEscape text

/-- A text as a double-quoted YAML scalar. -/
def yamlQuoted (text : String) : String := quotedBy yamlEscape text

end ConfigSchema.Text
