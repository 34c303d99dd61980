import ConfigSchema.Text.Category.Property

/-!
# Literals

A text between double quotes for people to read: what cannot be shown, or would be shown together
with the quote or the character before it, is given by its code point.

## Main definitions

- `literal` — a text as a literal
-/

namespace ConfigSchema.Text

/-- A character as it stands in a literal. -/
def literalEscape (c : Char) : List Char :=
  if c == '\x22' then ['\\', '\x22']
  else if c == '\\' then ['\\', '\\']
  else if c == '\x00' then ['\\', '0']
  else if c == '\n' then ['\\', 'n']
  else if c == '\r' then ['\\', 'r']
  else if c == '\t' then ['\\', 't']
  else if extendsCluster c.toNat || !isPrintable c.toNat then
    '\\' :: 'u' :: '\x7b' :: Nat.toDigits 16 c.toNat ++ ['\x7d']
  else [c]

/-- A text as a literal. -/
def literal (text : String) : String :=
  .ofList ('\x22' :: text.toList.flatMap literalEscape ++ ['\x22'])

end ConfigSchema.Text
