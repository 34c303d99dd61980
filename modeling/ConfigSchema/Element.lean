import ConfigSchema.Failure
import ConfigSchema.Pattern.Read

/-!
# Schema elements

An element describes one value of a document. A scalar has a type, a code block is text given by
its lines, and sections, categories and lists are made of further elements. A derived element is
computed from the other entries of its section.

## Main definitions

- `Info` — what every element can declare
- `Element` — the elements
- `Element.kindName` — the kind of an element, as diagnostics name it
- `Element.finish` — the last step of validation
- `resolveDerived` — the computed entries of a section
-/

namespace ConfigSchema

/-- The case into which the keys of a mapping are brought. -/
inductive KeyCase where
  | mixed
  | lower
  | upper
deriving DecidableEq, Repr

/-- What every element can declare. -/
structure Info where
  /-- The key of the element in its section. -/
  name? : Option String := none
  /-- A value must be given, unless there is a default. -/
  required : Bool := false
  /-- The element is left out of dumps. -/
  hidden : Bool := false
  /-- The value in place of one that is absent. -/
  default? : Option Value := none
  /-- The text that explains the element. -/
  help? : Option String := none
  /-- The values, or for categories the keys, that are allowed; none allows all. -/
  choices : List Value := []
  /-- The least number that is allowed. -/
  min? : Option Float := none
  /-- The greatest number that is allowed. -/
  max? : Option Float := none
  keyCase : KeyCase := .mixed
  /-- The last step of validation: it gets the siblings of a value and the value, and changes or
  refuses it. -/
  finish? : Option (Value → Value → Except String Value) := none

/-- The types of scalars. -/
inductive ScalarType where
  | str
  | int
  | float
  | bool
  /-- A text that is not empty. -/
  | path
  | pattern (pattern : Pattern)

/-- The name of a type, as diagnostics give it. -/
def ScalarType.name : ScalarType → String
  | str => "str"
  | int => "int"
  | float => "float"
  | bool => "bool"
  | path => "path"
  | pattern _ => "str"

/-- Whether values of a type are numbers. -/
def ScalarType.isNumeric : ScalarType → Bool
  | int | float => true
  | _ => false

/-- The description of a value. -/
inductive Element where
  | scalar (info : Info) (type : ScalarType)
  /-- Text that is given by its lines. -/
  | code (info : Info)
  /-- A section: a mapping in which each declared name has an element of its own. -/
  | keyed (info : Info) (children : List Element) (extraKeys : Bool)
  /-- A mapping with free keys, whose values all have one element. The entry under `defaultKey?` is
  no entry itself but a base for all others. -/
  | category (info : Info) (item : Element) (minEntries : Nat) (defaultKey? : Option String)
  | list (info : Info) (item : Element) (minLength? maxLength? : Option Nat)
  /-- A value that is computed from the other entries of its section. -/
  | derived (info : Info) (resolve : OrderedMap Value → Except String Value)

namespace Element

/-- What the element declares. -/
def info : Element → Info
  | scalar info _ | code info | keyed info _ _ => info
  | category info _ _ _ | list info _ _ _ | derived info _ => info

/-- The element with other declarations. -/
def withInfo (info : Info) : Element → Element
  | scalar _ type => scalar info type
  | code _ => code info
  | keyed _ children extraKeys => keyed info children extraKeys
  | category _ item minEntries defaultKey? => category info item minEntries defaultKey?
  | list _ item minLength? maxLength? => list info item minLength? maxLength?
  | derived _ resolve => derived info resolve

/-- The key of the element in its section. One without a name has the empty key. -/
def key (element : Element) : String := element.info.name?.getD ""

/-- Whether the element is stored under a key of its section. -/
def isNamed (element : Element) (key : String) : Bool := element.info.name? == some key

/-- The kind of the element, as diagnostics name it. -/
def kindName : Element → String
  | scalar _ type => type.name
  | code _ => "code block"
  | keyed _ _ _ => "mapping"
  | category _ _ _ _ => "category"
  | list _ _ _ _ => "list of items"
  | derived _ _ => "derived"

/-- Whether the value is computed. -/
def isDerived : Element → Bool
  | derived _ _ => true
  | _ => false

/-- Whether the element is a section. -/
def isKeyed : Element → Bool
  | keyed _ _ _ => true
  | _ => false

/-- Whether the element is a list. -/
def isList : Element → Bool
  | list _ _ _ _ => true
  | _ => false

/-- Whether the element is a number. -/
def isNumeric : Element → Bool
  | scalar _ type => type.isNumeric
  | _ => false

/-- Runs the last step of validation on a value, unless the value is null and optional. -/
def finish (element : Element) (siblings value : Value) (path : String) :
    Except Failure Value :=
  match element.info.finish? with
  | none => .ok value
  | some step =>
      if !element.info.required && value.isNull then .ok value
      else
        match step siblings value with
        | .ok value => .ok value
        | .error reason => .error (.invalid path (.unfinished reason))

end Element

/-- Computes the derived entries of a section, in the order of their elements, each from the entries
before it has been computed. -/
def resolveDerived (path : String) (entries : OrderedMap Value) :
    List Element → Except Failure (OrderedMap Value)
  | [] => .ok entries
  | child :: rest =>
      match child with
      | .derived _ resolve =>
          match resolve entries with
          | .ok value => resolveDerived path (entries.insert child.key value) rest
          | .error reason => .error (.invalid (Path.join path child.key) (.underivable reason))
      | _ => resolveDerived path entries rest

end ConfigSchema
