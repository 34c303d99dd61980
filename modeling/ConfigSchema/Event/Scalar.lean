import ConfigSchema.Decimal.Style
import ConfigSchema.Event
import ConfigSchema.Text.Blank
import ConfigSchema.Text.Quoted
import ConfigSchema.Yaml.Tree.Build

/-!
# The text of scalars

Each scalar is written so that reading it back gives the same text and the same type. Text is
written as it is where that reads back as itself, and between double quotes elsewhere.

## Main definitions

- `eventFloat`, `writtenFloat` — how floats are written in events and in YAML text
- `isPlainSafe` — whether a text reads back as itself without quotes
- `renderScalar` — the YAML text of a scalar; null is the empty text
-/

namespace ConfigSchema

/-- In events, floats have no exponent and whole numbers no fraction. -/
def eventFloat : FloatStyle := { tie := .up, nanText := "NaN", infText := "inf" }

/-- In YAML text, floats have no exponent, and whole numbers have a fraction, which keeps them apart
from integers. -/
def writtenFloat : FloatStyle :=
  { wholeFraction := true, tie := .up, nanText := ".nan", infText := ".inf" }

/-- Whether a text without quotes is one YAML scalar that denotes this text. -/
def readsAsItself (text : String) : Bool :=
  match Yaml.Tree.ofText? text with
  | .ok (.str read) => read == text
  | _ => false

/-- Whether a text can be written without quotes. -/
def isPlainSafe (text : String) : Bool :=
  !text.isEmpty && Text.trimWhite text == text &&
    text.toList.all (fun c => !(c == '\n' || c == '\r' || c == '\t' || Text.breaksYaml c)) &&
    readsAsItself text

/-- The text of a float in YAML, from any text that spells it. -/
def writtenFloatOf? (text : String) : Option String := (readFloat? text).map writtenFloat.text

/-- The text of an integer in YAML, from any text that spells it. -/
def writtenIntOf? (text : String) : Option String :=
  (readInt64? text).map fun number => toString number.toInt

/-- The YAML text of a scalar. -/
def renderScalar (text : String) (tag : ScalarTag) : Except StreamFault String :=
  let invalid : Except StreamFault String := .error (.invalidScalar text tag)
  match tag with
  | .null => .ok ""
  | .bool => if text == "true" || text == "false" then .ok text else invalid
  | .int => (writtenIntOf? text).elim invalid .ok
  | .float => (writtenFloatOf? text).elim invalid .ok
  | .str => .ok (if isPlainSafe text then text else Text.yamlQuoted text)

end ConfigSchema
