import ConfigSchema.Element.Merge
import ConfigSchema.Element.Scalar
import ConfigSchema.Text.Case

/-!
# Validation

A value is checked against an element and completed. A whole document has to have all that is
required, and its defaults are filled in; in a layer, which is merged with others later, what is
absent stays null.

## Main definitions

- `Mode` — whether a whole document or a layer is validated
- `Info.foldKeys` — a mapping whose keys are brought into the case that an element asks for
- `Element.validateAt` — the valid form of a value at a path
- `Element.validate` — the valid form of a document or a layer

## Design notes

Entries are validated in the order in which they can fail: first the shape of the value, then its
entries from the first to the last, then their number, then the last step of every entry.
-/

namespace ConfigSchema

/-- What is validated. -/
inductive Mode where
  /-- A whole document. -/
  | full
  /-- A layer that is merged with others later. -/
  | layer
deriving DecidableEq, Repr

/-! ## Keys -/

/-- A key in a case. -/
def KeyCase.apply : KeyCase → String → String
  | mixed, key => key
  | lower, key => Text.toLower key
  | upper, key => Text.toUpper key

/-- Adds entries under keys in a case. No two keys may become one. -/
def foldEntries (keyCase : KeyCase) (path : String) (out : OrderedMap Value) :
    List (String × Value) → Except Failure (OrderedMap Value)
  | [] => .ok out
  | (key, value) :: rest =>
      let folded := keyCase.apply key
      if out.contains folded then .error (.invalid (Path.join path folded) (.keyCollision key))
      else foldEntries keyCase path (out.insert folded value) rest

namespace Info

/-- A mapping whose keys are brought into the case that the element asks for. -/
def foldKeys (info : Info) (path : String) (fields : OrderedMap Value) :
    Except Failure (OrderedMap Value) :=
  match info.keyCase with
  | .mixed => .ok fields
  | keyCase => foldEntries keyCase path .empty fields.entries

/-- The entries from which a section is validated. A default that is no mapping counts as empty. -/
def sectionFields (info : Info) (path : String) (value : Value) :
    Except Failure (OrderedMap Value) :=
  match value with
  | .null => do return ((← info.absent path).asMap?).getD .empty
  | .map fields => info.foldKeys path fields
  | _ => .error (.invalid path (.wrongType "a mapping" value.typeName))

/-- The entries from which a category is validated. -/
def categoryFields (info : Info) (path : String) (value : Value) :
    Except Failure (OrderedMap Value) :=
  match value with
  | .null =>
      if info.required && info.default?.isNone then .error (.missing path) else .ok .empty
  | .map fields => info.foldKeys path fields
  | _ => .error (.invalid path (.wrongType "a mapping" value.typeName))

/-- The items from which a list is validated. A lone value stands for a list of one item, unless the
items are lists themselves. -/
def listItems (info : Info) (item : Element) (path : String) (value : Value) :
    Except Failure (List Value) :=
  match value with
  | .null =>
      match info.default? with
      | some (.seq items) => .ok items
      | _ => if info.required then .error (.missing path) else .ok []
  | .seq items => .ok items
  | _ =>
      if item.isList then .error (.invalid path (.wrongType "a sequence" value.typeName))
      else .ok [value]

/-- The key of an entry has to be one of the choices, if there are any. -/
def checkKey (info : Info) (path key : String) : Except Failure Unit :=
  if info.choices.isEmpty || info.choices.any (· == .str key) then .ok ()
  else .error (.invalid path (.keyNotAChoice key info.choices))

/-- The entries of the default of a category. -/
def defaultFields (info : Info) : OrderedMap Value := (info.default?.bind Value.asMap?).getD .empty

end Info

/-- The entries that no element of a section declares. They may only be there if the section allows
them. -/
def undeclaredEntries (children : List Element) (extraKeys : Bool) (path : String) :
    List (String × Value) → Except Failure (List (String × Value))
  | [] => .ok []
  | (key, value) :: rest =>
      if children.any (·.isNamed key) then undeclaredEntries children extraKeys path rest
      else if extraKeys then do
        return (key, value) :: (← undeclaredEntries children extraKeys path rest)
      else .error (.unknown (Path.join path key))

/-- Takes the entry with shared defaults out of a category. `check` tells whether it is valid. -/
def takeShared (check : String → Value → Except Failure Value) (path : String)
    (defaultKey? : Option String) (fields : OrderedMap Value) :
    Except Failure (Option (OrderedMap Value) × OrderedMap Value) :=
  match defaultKey? with
  | none => .ok (none, fields)
  | some key =>
      let others := fields.erase key
      match fields.get? key with
      | none | some .null => .ok (none, others)
      | some (.map shared) => do
          let _ ← check (Path.join path key) (.map shared)
          return (some shared, others)
      | some value =>
          .error (.invalid (Path.join path key)
            (.wrongType "a mapping of defaults" value.typeName))

/-- An entry of a category on top of the shared defaults. -/
def withShared (shared? : Option (OrderedMap Value)) (value : Value) : Value :=
  match shared?, value with
  | some shared, .map fields => .map (shared.insertMany fields.entries)
  | some shared, .null => .map shared
  | _, value => value

/-- A list may neither be too short nor too long. -/
def checkLength (path : String) (minLength? maxLength? : Option Nat) (size : Nat) :
    Except Failure Unit :=
  match minLength?.filter (size < ·), maxLength?.filter (size > ·) with
  | some least, _ => .error (.invalid path (.tooFewItems least size))
  | none, some most => .error (.invalid path (.tooManyItems most size))
  | none, none => .ok ()

/-! ## Last steps -/

namespace Element

/-- Runs the last step of an element on the value under a key. -/
def finishEntry (element : Element) (path : String) (fields : OrderedMap Value) (key : String) :
    Except Failure (OrderedMap Value) := do
  let value := (fields.get? key).getD .null
  return fields.insert key (← element.finish (.map fields) value (Path.join path key))

/-- Runs the last steps of the elements of a section. -/
def finishChildren (path : String) (children : List Element) (fields : OrderedMap Value) :
    Except Failure (OrderedMap Value) :=
  children.foldlM (fun fields child => child.finishEntry path fields child.key) fields

/-- Runs the last step of an element on all entries of a category. -/
def finishEntries (item : Element) (path : String) (fields : OrderedMap Value) :
    Except Failure (OrderedMap Value) :=
  fields.keys.foldlM (fun fields key => item.finishEntry path fields key) fields

/-- Runs the last step of an element on the items of a list. Each sees the items before it as they
are after their last step. -/
def finishItems (item : Element) (path : String) (items : List Value) :
    Except Failure (List Value) :=
  (List.range items.length).foldlM (fun items index => do
    let value := items.getD index .null
    return items.set index
      (← item.finish (.seq items) value (Path.join path (toString index)))) items

/-! ## The valid form -/

mutual

/-- The valid form of a value at a path, but for the last step of the element itself. -/
def validateAt : Element → (mode : Mode) → (path : String) → Value → Except Failure Value
  | element, mode, path, value =>
      if mode == .layer && value.isNull then .ok .null
      else
        match element with
        | scalar info type => info.validateScalar type path value
        | code info => info.validateCode path value
        | keyed info children extraKeys => do
            let fields ← info.sectionFields path value
            let extras ← undeclaredEntries children extraKeys path fields.entries
            let entries ← validateChildren children mode path fields
            let derived ← resolveDerived path (.ofList entries) children
            return .map (← finishChildren path children (derived.insertMany extras))
        | category info item minEntries defaultKey? => do
            let fields ← info.categoryFields path value
            let (shared?, fields) ←
              takeShared (fun path value => item.validateAt .layer path value) path defaultKey?
                fields
            let start := if mode == .full then info.defaultFields else .empty
            let entries ← fields.entries.foldlM (fun out (key, value) => do
              let path := Path.join path key
              info.checkKey path key
              let valid ← item.validateAt mode path (withShared shared? value)
              return out.insert key (match out.get? key with
                | some existing => item.merge existing valid
                | none => valid)) start
            if entries.size < minEntries then
              throw (.invalid path (.tooFewEntries minEntries entries.size))
            return .map (← finishEntries item path entries)
        | list info item minLength? maxLength? => do
            let items ← info.listItems item path value
            checkLength path minLength? maxLength? items.length
            let valid ← items.zipIdx.mapM fun (value, index) =>
              item.validateAt mode (Path.join path (toString index)) value
            if info.required && mode == .full && valid.isEmpty then
              throw (.invalid path .emptyRequiredList)
            return .seq (← finishItems item path valid)
        | derived _ _ => .error (.schema path .loneDerived)
termination_by structural element => element

/-- The valid forms of the entries of a section, without those that are derived: these are null. -/
def validateChildren : List Element → (mode : Mode) → (path : String) → OrderedMap Value →
    Except Failure (List (String × Value))
  | [], _, _, _ => .ok []
  | child :: rest, mode, path, fields => do
      let valid ← if child.isDerived then pure .null
        else child.validateAt mode (Path.join path child.key) ((fields.get? child.key).getD .null)
      return (child.key, valid) :: (← validateChildren rest mode path fields)
termination_by structural children => children

end

/-- The valid form of a document or a layer. -/
def validate (element : Element) (mode : Mode) (value : Value) : Except Failure Value := do
  element.finish .null (← element.validateAt mode "" value) ""

end Element

end ConfigSchema
