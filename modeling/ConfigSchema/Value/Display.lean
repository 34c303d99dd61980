import ConfigSchema.Event.Scalar
import ConfigSchema.Value

/-!
# The text of a value

Diagnostics and generated values show a document value on one line, with brackets around sequences
and braces around mappings, and without any quotes.

## Main definitions

- `Value.display` — the text of a value
- `displayAll` — the texts of several values, between commas
-/

namespace ConfigSchema

namespace Value

mutual

/-- The text of a value. -/
def display : Value → String
  | null => "null"
  | bool flag => if flag then "true" else "false"
  | int number => toString number.toInt
  | float number => eventFloat.text number
  | str text => text
  | seq items => "[" ++ ", ".intercalate (itemTexts items) ++ "]"
  | map ⟨fields⟩ => "\x7b" ++ ", ".intercalate (fieldTexts fields) ++ "\x7d"
termination_by structural value => value

/-- The texts of items. -/
def itemTexts : List Value → List String
  | [] => []
  | item :: rest => item.display :: itemTexts rest
termination_by structural items => items

/-- The texts of fields. -/
def fieldTexts : List (String × Value) → List String
  | [] => []
  | (key, value) :: rest => (key ++ ": " ++ value.display) :: fieldTexts rest
termination_by structural fields => fields

end

end Value

/-- The texts of several values, between commas. -/
def displayAll (values : List Value) : String := ", ".intercalate (values.map Value.display)

end ConfigSchema
