import ConfigSchema.Event.Read
import ConfigSchema.Value

/-!
# Values and events

A document value is written as events and built from them. Comments are skipped, and keys are taken
by their text, whatever their type.

## Main definitions

- `Value.events` — the events of a value
- `Value.ofEvents?` — the value that a stream denotes; a stream without a node denotes null
- `Value.ofText?` — the value that a YAML text denotes
-/

namespace ConfigSchema

/-- The text of a truth value. -/
def boolText (flag : Bool) : String := if flag then "true" else "false"

namespace Value

mutual

/-- The events of a value. -/
def events : Value → List Event
  | null => [.null]
  | bool flag => [.scalar (boolText flag) .bool]
  | int number => [.scalar (toString number.toInt) .int]
  | float number => [.scalar (eventFloat.text number) .float]
  | str text => [.str text]
  | seq items => .sequenceStart :: itemEvents items ++ [.sequenceEnd]
  | map ⟨fields⟩ => .mappingStart :: fieldEvents fields ++ [.mappingEnd]
termination_by structural value => value

/-- The events of items. -/
def itemEvents : List Value → List Event
  | [] => []
  | item :: rest => item.events ++ itemEvents rest
termination_by structural items => items

/-- The events of fields. -/
def fieldEvents : List (String × Value) → List Event
  | [] => []
  | (key, value) :: rest => .str key :: value.events ++ fieldEvents rest
termination_by structural fields => fields

end

/-- The value of a scalar. -/
def ofScalar? (text : String) (tag : ScalarTag) : Except ParseFault Value :=
  let invalid : Except ParseFault Value := .error (.invalidScalar text tag)
  match tag with
  | .null => .ok .null
  | .bool => if text == "true" then .ok (.bool true)
      else if text == "false" then .ok (.bool false)
      else invalid
  | .int => (readInt64? text).elim invalid (.ok ∘ .int)
  | .float => (readFloat? text).elim invalid (.ok ∘ .float)
  | .str => .ok (.str text)

/-- The events after the comments at their start. -/
def dropComments (events : List Event) : List Event := events.dropWhile Event.isComment

/-- A built part, and the events after it. -/
abbrev Taken (α : Type) := α × List Event

mutual

/-- Takes the node at the start of the events. Each call uses one unit of `fuel`. -/
def takeNode : (fuel : Nat) → List Event → Except ParseFault (Taken Value)
  | 0, _ => .error .endedInside
  | fuel + 1, events =>
      match dropComments events with
      | [] => .error .endedInside
      | .scalar text tag :: rest => do return (← ofScalar? text tag, rest)
      | .mappingStart :: rest => do
          let (fields, rest) ← takeFields fuel .empty rest
          return (.map fields, rest)
      | .sequenceStart :: rest => do
          let (items, rest) ← takeItems fuel rest
          return (.seq items, rest)
      | event :: _ => .error (.notValue event)
termination_by structural fuel => fuel

/-- Takes the fields of a mapping up to its end and adds them to `fields`. -/
def takeFields : (fuel : Nat) → (fields : OrderedMap Value) → List Event →
    Except ParseFault (Taken (OrderedMap Value))
  | 0, _, _ => .error .endedInside
  | fuel + 1, fields, events =>
      match dropComments events with
      | [] => .error .endedInside
      | .mappingEnd :: rest => .ok (fields, rest)
      | .scalar key _ :: rest =>
          if fields.contains key then .error (.duplicateKey key)
          else do
            let (value, rest) ← takeNode fuel rest
            takeFields fuel (fields.insert key value) rest
      | event :: _ => .error (.notKey event)
termination_by structural fuel => fuel

/-- Takes the items of a sequence up to its end. -/
def takeItems : (fuel : Nat) → List Event → Except ParseFault (Taken (List Value))
  | 0, _ => .error .endedInside
  | fuel + 1, events =>
      match dropComments events with
      | .sequenceEnd :: rest => .ok ([], rest)
      | events => do
          let (item, rest) ← takeNode fuel events
          let (items, rest) ← takeItems fuel rest
          return (item :: items, rest)
termination_by structural fuel => fuel

end

/-- The value that a stream denotes. Every two calls take at least one event, so the fuel lasts. -/
def ofEvents? (events : List Event) : Except ParseFault Value :=
  match dropComments events with
  | .streamStart :: rest => do
      let body := dropComments rest
      let (value, rest) ← match body with
        | .streamEnd :: _ => pure (Value.null, body)
        | _ => takeNode (2 * events.length + 2) body
      match dropComments rest with
      | [.streamEnd] => return value
      | _ => throw .notSingle
  | _ => .error .noStreamStart

/-- The value that a YAML text denotes. -/
def ofText? (text : String) : Except ParseFault Value := do ofEvents? (← readEvents text)

end Value

end ConfigSchema
