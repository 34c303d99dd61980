import ConfigSchema.Event
import ConfigSchema.Yaml.Fault

/-!
# Faults of documents

Why a text, a tree or a sequence of events is not a document.

## Main definitions

- `ParseFault` — the causes
- `ParseFault.message`, `ParseFault.position?` — their wording, and their place if they have one
-/

namespace ConfigSchema

/-- Why something is not a document. -/
inductive ParseFault where
  /-- The text is not YAML. -/
  | yaml (fault : Yaml.Fault)
  /-- An integer is too large for 64 bits with a sign. -/
  | integerOutOfRange (number : Int)
  /-- A key is a collection. -/
  | compoundKey
  /-- The events do not begin with the start of a stream. -/
  | noStreamStart
  /-- The events end inside the document. -/
  | endedInside
  /-- A mapping has a key twice. -/
  | duplicateKey (key : String)
  /-- An event stands where a mapping key must. -/
  | notKey (found : Event)
  /-- An event stands where a value must. -/
  | notValue (found : Event)
  /-- The text of a scalar does not fit its type. -/
  | invalidScalar (text : String) (tag : ScalarTag)
  /-- The document is not followed by the end of the stream alone. -/
  | notSingle
deriving DecidableEq, Repr

namespace ParseFault

/-- The wording of a fault. -/
def message : ParseFault → String
  | yaml fault => fault.message
  | integerOutOfRange number => "integer " ++ toString number ++ " is out of range"
  | compoundKey => "mapping keys must be scalars"
  | noStreamStart => "expected stream start"
  | endedInside => "stream ended inside a document"
  | duplicateKey key => "duplicate mapping key '" ++ key ++ "'"
  | notKey found => "expected mapping key, found " ++ found.kind
  | notValue found => "expected a value, found " ++ found.kind
  | invalidScalar text tag => "'" ++ text ++ "' is not a valid " ++ tag.name
  | notSingle => "expected a single document followed by stream end"

/-- The line and the column of a fault, counted from one. -/
def position? : ParseFault → Option (Nat × Nat)
  | yaml (.at mark _) => some (mark.line + 1, mark.column + 1)
  | _ => none

end ParseFault

end ConfigSchema
