import ConfigSchema.Text.Blank

/-!
# Word wrapping

Text is set in lines of limited width by putting each word on the current line as long as it fits.
A word that is wider than a line stands alone on one.

## Main definitions

- `fill` — lines from words
- `wrap` — lines from a text
-/

namespace ConfigSchema.Text

/-- The lines that hold `current`, a line that has begun, and then the given words. -/
def fill (width : Nat) : (current : String) → List String → List String
  | current, [] => if current.isEmpty then [] else [current]
  | current, word :: rest =>
      if current.isEmpty then fill width word rest
      else if current.length + 1 + word.length ≤ width then
        fill width (current ++ " " ++ word) rest
      else current :: fill width word rest

/-- The words of a text in lines of at most `width` characters. A width of zero counts as one. -/
def wrap (text : String) (width : Nat) : List String := fill (max width 1) "" (words text)

end ConfigSchema.Text
