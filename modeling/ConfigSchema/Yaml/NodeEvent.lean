import ConfigSchema.Yaml.Token

/-!
# Node events

A document as the sequence of its nodes in the order of the text: scalars, aliases, and the start
and end of collections.

## Main definitions

- `NodeEvent`, `PlacedEvent` — an event, and an event with its place
- `Labels` — the anchor and tag of a node
- `DocumentEvents` — the events of the first document of a text, and what follows it
-/

namespace ConfigSchema.Yaml

/-- The anchor and the tag of a node. -/
structure Labels where
  anchor : Option String := none
  tag : Option Octets := none
deriving DecidableEq, Repr

/-- One step through a document. An alias refers to its node by a value of type `Ref`. -/
inductive NodeEvent (Ref : Type) where
  | alias (target : Ref)
  | scalar (labels : Labels) (text : String) (plain : Bool)
  | sequenceStart (labels : Labels)
  | sequenceEnd
  | mappingStart (labels : Labels)
  | mappingEnd
deriving DecidableEq, Repr

/-- A node event with its place. -/
structure PlacedEvent (Ref : Type) where
  event : NodeEvent Ref
  mark : Mark
deriving DecidableEq, Repr

/-- The events of the first document of a text, whose aliases are names. -/
structure DocumentEvents where
  events : List (PlacedEvent String)
  /-- The fault that cuts the events off. -/
  fault : Option Fault
  /-- Whether a second document, readable or not, follows. -/
  followed : Bool

end ConfigSchema.Yaml
