import ConfigSchema.Decimal.Style
import ConfigSchema.Text.Quoted
import ConfigSchema.Value

/-!
# Values as JSON text

The compact JSON text of a value. The members of an object are sorted by key, in the order of code
points, and floats that are not finite are null.

## Main definitions

- `jsonFloat` — how floats are written
- `Value.jsonText` — the text of a value
-/

namespace ConfigSchema

/-- In JSON, floats have an exponent, with a sign, where that is shorter, and whole numbers have a
fraction. -/
def jsonFloat : FloatStyle :=
  { positional := some (-5, 16), wholeFraction := true, plusSign := true, nanText := "null"
    infText := "null" }

/-- The JSON text of a float. -/
def jsonFloatText (number : Float) : String :=
  if number.isFinite then jsonFloat.text number else "null"

/-- Whether a member comes no later than another in an object. -/
def keyLe (a b : String × String) : Bool := !(b.1 < a.1)

namespace Value

mutual

/-- The JSON text of a value. -/
def jsonText : Value → String
  | null => "null"
  | bool flag => if flag then "true" else "false"
  | int number => toString number.toInt
  | float number => jsonFloatText number
  | str text => Text.jsonQuoted text
  | seq items => "[" ++ ",".intercalate (jsonItems items) ++ "]"
  | map ⟨fields⟩ =>
      let members := (jsonMembers fields).mergeSort keyLe
      "\x7b" ++ ",".intercalate (members.map fun (key, text) => Text.jsonQuoted key ++ ":" ++ text)
        ++ "\x7d"
termination_by structural value => value

/-- The JSON texts of items. -/
def jsonItems : List Value → List String
  | [] => []
  | item :: rest => item.jsonText :: jsonItems rest
termination_by structural items => items

/-- The keys of fields with the JSON texts of their values. -/
def jsonMembers : List (String × Value) → List (String × String)
  | [] => []
  | (key, value) :: rest => (key, value.jsonText) :: jsonMembers rest
termination_by structural fields => fields

end

end Value

end ConfigSchema
