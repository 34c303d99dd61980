import ConfigSchema.Decimal.Read

/-!
# Dotted paths

A place in a document, or in a schema, is named by the keys and positions on the way to it, with
dots between them. The empty path names the root.

## Main definitions

- `Path.join` — the path of a child
- `Path.segments` — the steps of a path
- `Path.index?` — the position that a step names
-/

namespace ConfigSchema.Path

/-- The path of the child under `key`. The root adds nothing to it. -/
def join (path key : String) : String := if path.isEmpty then key else path ++ "." ++ key

/-- The parts of a list of characters between dots; `current` is the part that has begun, its last
character first. -/
def splitDots : (current : List Char) → List Char → List (List Char)
  | current, [] => [current.reverse]
  | current, c :: cs =>
      if c == '.' then current.reverse :: splitDots [] cs else splitDots (c :: current) cs

/-- The steps of a path. The empty path has none. -/
def segments (path : String) : List String :=
  if path.isEmpty then [] else (splitDots [] path.toList).map .ofList

/-- The position that a step names by ASCII digits. It fits into 64 bits. -/
def index? (segment : String) : Option Nat :=
  let digits := segment.toList
  if digits.all Char.isDigit then (readNat? 10 digits).filter (· < UInt64.size) else none

/-- A path as diagnostics show it. -/
def display (path : String) : String := if path.isEmpty then "<root>" else path

end ConfigSchema.Path
