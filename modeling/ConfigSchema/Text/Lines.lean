/-!
# Lines

A text as a list of lines. A line ends at a line feed, and a carriage return before the line feed
belongs to the line end. The last line need not end.

## Main definitions

- `lines` — the lines of a text
-/

namespace ConfigSchema.Text

/-- A line, given in reverse, without a carriage return at its end. -/
def dropReturn : List Char → List Char
  | '\r' :: cs => cs
  | cs => cs

/-- The lines of a list of characters; `current` is the line that has begun, its last character
first. -/
def splitLines : (current : List Char) → List Char → List (List Char)
  | current, [] => if current.isEmpty then [] else [current.reverse]
  | current, c :: cs =>
      if c == '\n' then (dropReturn current).reverse :: splitLines [] cs
      else splitLines (c :: current) cs

/-- The lines of a text, without their ends. -/
def lines (text : String) : List String := (splitLines [] text.toList).map .ofList

end ConfigSchema.Text
