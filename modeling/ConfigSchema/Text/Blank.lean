/-!
# White space

The characters of the Unicode property `White_Space`, and the words between them.

## Main definitions

- `isWhite` — the property
- `trimWhite` — a text without the white space at its ends
- `words` — the words of a text
-/

namespace ConfigSchema.Text

/-- Whether a character is white space. -/
def isWhite (c : Char) : Bool :=
  let n := c.toNat
  (0x09 ≤ n && n ≤ 0x0D) || n == 0x20 || n == 0x85 || n == 0xA0 || n == 0x1680 ||
    (0x2000 ≤ n && n ≤ 0x200A) || n == 0x2028 || n == 0x2029 || n == 0x202F || n == 0x205F ||
    n == 0x3000

/-- A list of characters without the white space at its ends. -/
def trimChars (cs : List Char) : List Char :=
  ((cs.dropWhile isWhite).reverse.dropWhile isWhite).reverse

/-- A text without the white space at its ends. -/
def trimWhite (text : String) : String := .ofList (trimChars text.toList)

/-- Whether a text holds nothing but white space. -/
def isAllWhite (text : String) : Bool := text.toList.all isWhite

/-- The words of a list of characters; `current` is the word that has begun, its last character
first. -/
def splitWords : (current : List Char) → List Char → List (List Char)
  | current, [] => if current.isEmpty then [] else [current.reverse]
  | current, c :: cs =>
      if isWhite c then
        if current.isEmpty then splitWords [] cs else current.reverse :: splitWords [] cs
      else
        splitWords (c :: current) cs

/-- The words of a text: its longest runs without white space. -/
def words (text : String) : List String := (splitWords [] text.toList).map .ofList

end ConfigSchema.Text
