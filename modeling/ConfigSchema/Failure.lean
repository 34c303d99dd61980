import ConfigSchema.ParseFault
import ConfigSchema.Path
import ConfigSchema.Value.Display

/-!
# Failures

Why a schema, a document or a path is refused. Each failure names its cause, and its wording is kept
in one place.

## Main definitions

- `ValueFault` — why a value does not fit its element
- `PathFault` — why a path leads nowhere
- `DecodeFault` — why a value is no set of options
- `SchemaFault`, `Failure` — why a schema is inconsistent, and any failure; a default that is not
  valid makes one the cause of the other
- `Failure.message`, `Failure.path?` — the wording of a failure, and the place that it names
-/

namespace ConfigSchema

/-- Why a value does not fit its element. -/
inductive ValueFault where
  /-- A value of another type stands where one was expected. -/
  | wrongType (expected found : String)
  /-- A text does not spell a number. -/
  | unreadable (expected text : String)
  | emptyPath
  /-- A text does not match a pattern. -/
  | mismatch (text pattern : String)
  /-- A value is none of those allowed. -/
  | notAChoice (value : Value) (choices : List Value)
  /-- A key is none of those allowed. -/
  | keyNotAChoice (key : String) (choices : List Value)
  /-- A range is declared, and NaN lies in none. -/
  | nanInRange
  | belowMinimum (value : Value) (minimum : Float)
  | aboveMaximum (value : Value) (maximum : Float)
  /-- Two keys become one when their case is changed. -/
  | keyCollision (key : String)
  | tooFewEntries (least found : Nat)
  | tooFewItems (least found : Nat)
  | tooManyItems (most found : Nat)
  | emptyRequiredList
  /-- The last check of an element refuses the value. -/
  | unfinished (reason : String)
  /-- A value cannot be computed from its siblings. -/
  | underivable (reason : String)

/-- The wording of a fault. -/
def ValueFault.message : ValueFault → String
  | wrongType expected found => "expected " ++ expected ++ ", found " ++ found
  | unreadable expected text => "expected " ++ expected ++ ", found '" ++ text ++ "'"
  | emptyPath => "path must not be empty"
  | mismatch text pattern => "'" ++ text ++ "' does not match r'" ++ pattern ++ "'"
  | notAChoice value choices =>
      "'" ++ value.display ++ "' is not one of: " ++ displayAll choices
  | keyNotAChoice key choices => "key '" ++ key ++ "' is not one of: " ++ displayAll choices
  | nanInRange => "NaN is outside every range"
  | belowMinimum value minimum =>
      value.display ++ " is below the minimum of " ++ eventFloat.text minimum
  | aboveMaximum value maximum =>
      value.display ++ " is above the maximum of " ++ eventFloat.text maximum
  | keyCollision key => "key '" ++ key ++ "' duplicates another key after case normalisation"
  | tooFewEntries least found =>
      "expected at least " ++ toString least ++ " entries, found " ++ toString found
  | tooFewItems least found =>
      "expected at least " ++ toString least ++ " items, found " ++ toString found
  | tooManyItems most found =>
      "expected at most " ++ toString most ++ " items, found " ++ toString found
  | emptyRequiredList => "required list is empty"
  | unfinished reason => "post-validation failed: " ++ reason
  | underivable reason => "cannot derive value: " ++ reason

/-- Why a path leads nowhere. -/
inductive PathFault where
  /-- The schema has no element there. -/
  | noElement (parent : String)
  /-- The schema does not declare the key. -/
  | undeclared (parent : String)
  | noSuchKey
  /-- A list is entered by something that is no position. -/
  | notAnIndex (segment : String)
  | outOfRange (index size : Nat)
  /-- The value or the element there has nothing below it. -/
  | notAContainer (kind : String)
  /-- A value that is computed has no default. -/
  | derivedDefault

/-- The wording of a fault. -/
def PathFault.message : PathFault → String
  | noElement parent => "no element below this " ++ parent
  | undeclared parent => "not declared below this " ++ parent
  | noSuchKey => "no such key"
  | notAnIndex segment => "'" ++ segment ++ "' is not a list index"
  | outOfRange index size =>
      "index " ++ toString index ++ " is out of range for a list of " ++ toString size ++ " items"
  | notAContainer kind => "cannot descend into a " ++ kind
  | derivedDefault => "derived values have no default"

/-- Why a value is no set of options. -/
inductive DecodeFault where
  /-- A value of another type stands where one was expected. -/
  | wrongType (found expected : String)
  /-- A value of the right type is none of those that were expected. -/
  | wrongValue (found expected : String)
  /-- A sequence has more items than there are options. -/
  | tooLong (size : Nat)
deriving DecidableEq, Repr

/-- The wording of a fault. -/
def DecodeFault.message : DecodeFault → String
  | wrongType found expected => "invalid type: " ++ found ++ ", expected " ++ expected
  | wrongValue found expected => "invalid value: " ++ found ++ ", expected " ++ expected
  | tooLong size =>
      "invalid length " ++ toString size ++ ", expected fewer elements in array"

mutual

/-- Why a schema is inconsistent. -/
inductive SchemaFault where
  | invalidName (name : String)
  /-- An entry that is neither shown nor given a default cannot be required. -/
  | hiddenRequired
  /-- A range is declared for something that is no number. -/
  | misplacedRange
  | emptyRange (minimum maximum : Float)
  /-- A pattern is malformed. -/
  | invalidPattern
  /-- A computed value stands elsewhere than in a keyed element. -/
  | misplacedDerived
  /-- A computed value is validated without its siblings. -/
  | loneDerived
  /-- Names are in lower case, so that keys in upper case match none. -/
  | upperKeyCase
  | unnamedChild
  | duplicateName (name : String)
  /-- Entries that are not keyed cannot share defaults. -/
  | misplacedDefaultKey
  | emptyLengthRange (least most : Nat)
  /-- Choices are declared for something that is neither a scalar nor a category. -/
  | misplacedChoices (kind : String)
  /-- A computed value declares a default. -/
  | derivedDefault
  /-- A declared default is not valid. -/
  | invalidDefault (failure : Failure)
  /-- A required element has no default. -/
  | noDefault
  /-- A default cannot be completed by the values computed from it. -/
  | underivableDefault (failure : Failure)

/-- Why an operation on schemas and documents fails. Paths start at the root of the operation. -/
inductive Failure where
  /-- Something is not a document. -/
  | parse (fault : ParseFault)
  /-- A required value is absent and has no default. -/
  | missing (path : String)
  /-- A key is not declared. -/
  | unknown (path : String)
  | invalid (path : String) (fault : ValueFault)
  | schema (path : String) (fault : SchemaFault)
  | unresolved (path : String) (fault : PathFault)
  /-- A value is no set of options. -/
  | decode (fault : DecodeFault)
  /-- The events of a document cannot be written. -/
  | stream (fault : StreamFault)

end

mutual

/-- The wording of a fault. -/
def SchemaFault.message : SchemaFault → String
  | .invalidName name =>
      "invalid name '" ++ name ++ "': names start with a lowercase letter" ++
        " and contain only lowercase letters, digits and underscores"
  | .hiddenRequired => "hidden required elements need a default"
  | .misplacedRange => "ranges apply only to int and float elements"
  | .emptyRange minimum maximum =>
      "minimum " ++ eventFloat.text minimum ++ " exceeds maximum " ++ eventFloat.text maximum
  | .invalidPattern => "invalid pattern"
  | .misplacedDerived => "derived elements are only valid directly inside a keyed element"
  | .loneDerived => "derived elements are resolved by their keyed parent"
  | .upperKeyCase => "keyed element names are lowercase, so upper key case never matches"
  | .unnamedChild => "children of a keyed element must be named"
  | .duplicateName name => "duplicate element name '" ++ name ++ "'"
  | .misplacedDefaultKey => "a default key needs a keyed sub-element"
  | .emptyLengthRange least most =>
      "min_length " ++ toString least ++ " exceeds max_length " ++ toString most
  | .misplacedChoices kind => "choices do not apply to " ++ kind ++ " elements"
  | .derivedDefault => "derived elements have no default"
  | .invalidDefault failure => "default is invalid: " ++ failure.message
  | .noDefault => "required element has no default"
  | .underivableDefault failure => failure.message

/-- The wording of a failure. -/
def Failure.message : Failure → String
  | .parse fault => "failed to parse config: " ++ fault.message
  | .missing path => "missing required value at " ++ Path.display path
  | .unknown path => "unknown key at " ++ Path.display path
  | .invalid path fault => "invalid value at " ++ Path.display path ++ ": " ++ fault.message
  | .schema path fault => "invalid schema at " ++ Path.display path ++ ": " ++ fault.message
  | .unresolved path fault => "unresolved path " ++ Path.display path ++ ": " ++ fault.message
  | .decode fault => "failed to decode config: " ++ fault.message
  | .stream fault => "failed to emit config: " ++ fault.message

end

/-- The path that a failure names, if it names one. -/
def Failure.path? : Failure → Option String
  | .missing path | .unknown path => some path
  | .invalid path _ | .schema path _ | .unresolved path _ => some path
  | .parse _ | .decode _ | .stream _ => none

end ConfigSchema
