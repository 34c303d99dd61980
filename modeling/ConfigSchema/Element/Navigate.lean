import ConfigSchema.Element.Default
import ConfigSchema.Element.Lookup

/-!
# Places in a document

A dotted path leads through a document along with its schema. It may leave the schema where a
section allows further keys.

## Main definitions

- `Slot`, `Element.slot` — a place in a document, with the way to put another value there
- `Element.find` — the value at a path
- `Element.setDefault` — a document with the default of the schema at a path
-/

namespace ConfigSchema

namespace Value

/-- The position in a list of `size` items that a step names. -/
def position (path segment : String) (size : Nat) : Except Failure Nat :=
  match Path.index? segment with
  | none => .error (.unresolved path (.notAnIndex segment))
  | some index =>
      if index < size then .ok index else .error (.unresolved path (.outOfRange index size))

/-- The value one step below, the step leading to `path`. -/
def descend (path segment : String) (value : Value) : Except Failure Value :=
  match value with
  | .map fields =>
      match fields.get? segment with
      | some child => .ok child
      | none => .error (.unresolved path .noSuchKey)
  | .seq items => do return items.getD (← position path segment items.length) .null
  | _ => .error (.unresolved path (.notAContainer value.typeName))

/-- The value with another value one step below. -/
def putBelow (value : Value) (segment : String) (child : Value) : Value :=
  match value with
  | .map fields => .map (fields.modify segment fun _ => child)
  | .seq items => .seq (items.set ((Path.index? segment).getD 0) child)
  | _ => value

end Value

/-- A place in a document. -/
structure Slot where
  /-- The value at the place. -/
  value : Value
  /-- The document with another value at the place. -/
  put : Value → Value

namespace Element

/-- Whether a section has entries that it does not declare. -/
def allowsExtraKeys : Element → Bool
  | keyed _ _ extraKeys => extraKeys
  | _ => false

/-- The element one step below, the step leading to `path`. Below entries that are not declared
there is none. -/
def step (path segment : String) : Option Element → Except Failure (Option Element)
  | none => .ok none
  | some element =>
      match element.child? segment with
      | some child => .ok (some child)
      | none =>
          if element.allowsExtraKeys then .ok none
          else .error (.unresolved path (.undeclared element.kindName))

/-- The value that steps lead to, after those that led to `path`. -/
def findFrom : (path : String) → Option Element → Value → (segments : List String) →
    Except Failure Value
  | _, _, value, [] => .ok value
  | path, element?, value, segment :: rest => do
      let path := Path.join path segment
      let element? ← step path segment element?
      findFrom path element? (← value.descend path segment) rest

/-- The value at a dotted path. -/
def find (element : Element) (document : Value) (dotted : String) : Except Failure Value :=
  findFrom "" (some element) document (Path.segments dotted)

/-- The place that steps lead to, after those that led to `path`. -/
def slotFrom : (path : String) → Option Element → Value → (segments : List String) →
    Except Failure Slot
  | _, _, value, [] => .ok ⟨value, id⟩
  | path, element?, value, segment :: rest => do
      let path := Path.join path segment
      let element? ← step path segment element?
      let inner ← slotFrom path element? (← value.descend path segment) rest
      return ⟨inner.value, fun new => value.putBelow segment (inner.put new)⟩

/-- The place at a dotted path. -/
def slot (element : Element) (document : Value) (dotted : String) : Except Failure Slot :=
  slotFrom "" (some element) document (Path.segments dotted)

/-! ## Defaults -/

/-- A value, or the empty container that the element describes in place of null. -/
def container (element : Element) (path : String) (value : Value) : Except Failure Value :=
  if value.isNull then
    match element with
    | keyed _ _ _ | category _ _ _ _ => .ok .emptyMap
    | list _ _ _ _ => .ok (.seq [])
    | scalar _ _ | code _ | derived _ _ =>
        .error (.unresolved path (.notAContainer element.kindName))
  else .ok value

/-- The container with a place for a step that leads to `path`, and what is there. A new key is
added to a mapping, and the position after the last one to a list. -/
def makeRoom (path segment : String) (value : Value) : Except Failure (Value × Value) :=
  match value with
  | .map fields =>
      let fields := fields.insertIfNew segment .null
      .ok (.map fields, (fields.get? segment).getD .null)
  | .seq items => do
      let items := if Path.index? segment == some items.length then items ++ [.null] else items
      let index ← Value.position path segment items.length
      return (.seq items, items.getD index .null)
  | _ => .error (.unresolved path (.notAContainer value.typeName))

/-- What a change leaves behind: a document, and the failure that ended the change, if one did. -/
structure Change where
  document : Value
  failure? : Option Failure := none

/-- Puts the default of the last step's element into a value, after the steps that led to `path`.
Containers that are missing on the way are made, and stay when a later step fails. -/
def setDefaultFrom : (path : String) → Element → Value → (segments : List String) → Change
  | path, element, value, [] =>
      match element.defaultAt path with
      | .ok default => { document := default }
      | .error failure => { document := value, failure? := failure }
  | path, element, value, segment :: rest =>
      let path := Path.join path segment
      match element.child? segment with
      | none =>
          { document := value
            failure? := some (.unresolved path (.undeclared element.kindName)) }
      | some child =>
          let ready : Except Failure Unit :=
            if !rest.isEmpty then .ok ()
            else if child.isDerived then .error (.unresolved path .derivedDefault)
            else (child.defaultAt path).map fun _ => ()
          match ready with
          | .error failure => { document := value, failure? := failure }
          | .ok _ =>
              match element.container path value with
              | .error failure => { document := value, failure? := failure }
              | .ok container =>
                  match makeRoom path segment container with
                  | .error failure => { document := container, failure? := failure }
                  | .ok (roomy, inside) =>
                      let inner := setDefaultFrom path child inside rest
                      { inner with document := roomy.putBelow segment inner.document }

/-- A document with the default of the schema at a dotted path. -/
def setDefault (element : Element) (document : Value) (dotted : String) : Change :=
  setDefaultFrom "" element document (Path.segments dotted)

end Element

end ConfigSchema
