/-!
# Event streams

Structured text as a flat sequence of events. Reading a document, building one and writing one all
go through this form.

## Main definitions

- `ScalarTag` — the type of a scalar
- `Event` — one event; a comment documents what comes directly after it
- `StreamFault` — why a sequence of events cannot be written
-/

namespace ConfigSchema

/-- The type of a scalar. -/
inductive ScalarTag where
  | null
  | bool
  | int
  | float
  | str
deriving DecidableEq, Repr

/-- The name of a type, as diagnostics give it. -/
def ScalarTag.name : ScalarTag → String
  | null => "null"
  | bool => "bool"
  | int => "int"
  | float => "float"
  | str => "str"

/-- One step of a stream. The entries of a mapping are a key scalar and the events of a value. -/
inductive Event where
  | streamStart
  | streamEnd
  | mappingStart
  | mappingEnd
  | sequenceStart
  | sequenceEnd
  | scalar (text : String) (tag : ScalarTag)
  | comment (text : String)
deriving DecidableEq, Repr

namespace Event

/-- The scalar that is null. -/
def null : Event := .scalar "" .null

/-- A scalar that is text. -/
def str (text : String) : Event := .scalar text .str

/-- Whether the event is a comment. -/
def isComment : Event → Bool
  | .comment _ => true
  | _ => false

/-- The kind of an event, as diagnostics name it. -/
def kind : Event → String
  | streamStart => "stream start"
  | streamEnd => "stream end"
  | mappingStart => "mapping start"
  | mappingEnd => "mapping end"
  | sequenceStart => "sequence start"
  | sequenceEnd => "sequence end"
  | scalar _ _ => "scalar"
  | comment _ => "comment"

end Event

/-- What a stream must go on with. -/
inductive Wanted where
  | streamStart
  | streamEnd
  | documentNode
  | mappingKey
  | valueNode
deriving DecidableEq, Repr

/-- The wording of what a stream must go on with. -/
def Wanted.message : Wanted → String
  | streamStart => "stream start"
  | streamEnd => "stream end"
  | documentNode => "a document node"
  | mappingKey => "a mapping key"
  | valueNode => "a value node"

/-- Why a sequence of events cannot be written. -/
inductive StreamFault where
  /-- The text of a scalar does not fit its type. -/
  | invalidScalar (text : String) (tag : ScalarTag)
  /-- Another event stands in place of the one that must come. -/
  | unexpected (wanted : Wanted) (found : Event)
  /-- The events end before the stream does. -/
  | endedEarly
  /-- Events follow the end of the stream. -/
  | trailing
deriving DecidableEq, Repr

/-- The wording of a fault. -/
def StreamFault.message : StreamFault → String
  | invalidScalar text tag => "invalid " ++ tag.name ++ " scalar '" ++ text ++ "'"
  | unexpected wanted found =>
      "unbalanced event stream: expected " ++ wanted.message ++ ", found " ++ found.kind
  | endedEarly => "unbalanced event stream: stream ended early"
  | trailing => "unbalanced event stream: events follow the end of the stream"

end ConfigSchema
