import ConfigSchema.Element

/-!
# Valid scalars and code blocks

A scalar is brought into its type where that loses nothing, and then has to be one of the choices
and within the range. A code block becomes one text that ends with a line feed.

## Main definitions

- `Info.absent` — what an absent value stands for
- `ScalarType.convert` — a value brought into a type
- `Info.checkChoices`, `Info.checkRange` — the limits of a scalar
- `Info.validateScalar`, `Info.validateCode` — the valid form of a value
-/

namespace ConfigSchema

/-- What an absent value stands for: the default, or else null, which a required element refuses. -/
def Info.absent (info : Info) (path : String) : Except Failure Value :=
  match info.default? with
  | some default => .ok default
  | none => if info.required then .error (.missing path) else .ok .null

/-- A value brought into a type: numbers and truth values become text, text that spells a number
becomes the number, and integers become floats. -/
def ScalarType.convert (type : ScalarType) (path : String) (value : Value) :
    Except Failure Value :=
  let invalid (fault : ValueFault) : Except Failure Value := .error (.invalid path fault)
  match type, value with
  | .str, .str text => .ok (.str text)
  | .str, .bool _ | .str, .int _ | .str, .float _ => .ok (.str value.display)
  | .int, .int number => .ok (.int number)
  | .int, .str text =>
      match readInt64? (Text.trimWhite text) with
      | some number => .ok (.int number)
      | none => invalid (.unreadable "int" text)
  | .float, .int number => .ok (.float (.ofInt number.toInt))
  | .float, .float number => .ok (.float number)
  | .float, .str text =>
      match readFloat? (Text.trimWhite text) with
      | some number => .ok (.float number)
      | none => invalid (.unreadable "float" text)
  | .bool, .bool flag => .ok (.bool flag)
  | .path, .str text => if text.isEmpty then invalid .emptyPath else .ok (.str text)
  | .pattern p, .str text =>
      match p.regex? with
      | none => .error (.schema path .invalidPattern)
      | some regex =>
          if regex.accepts text then .ok (.str text) else invalid (.mismatch text p.source)
  | _, _ => invalid (.wrongType type.name value.typeName)

/-- Whether a value is the same scalar as a choice. Numbers compare as floats. -/
def sameScalar (choice value : Value) : Bool :=
  match choice.asFloat?, value.asFloat? with
  | some a, some b => a == b
  | _, _ => choice == value

namespace Info

/-- A value has to be one of the choices, if there are any. -/
def checkChoices (info : Info) (path : String) (value : Value) : Except Failure Unit :=
  if info.choices.isEmpty || info.choices.any (sameScalar · value) then .ok ()
  else .error (.invalid path (.notAChoice value info.choices))

/-- A number has to be in the range, if there is one. -/
def checkRange (info : Info) (path : String) (value : Value) : Except Failure Unit :=
  let invalid (fault : ValueFault) : Except Failure Unit := .error (.invalid path fault)
  match value.asFloat? with
  | none => .ok ()
  | some number =>
      if (info.min?.isSome || info.max?.isSome) && number.isNaN then invalid .nanInRange
      else
        match info.min?.filter (number < ·), info.max?.filter (number > ·) with
        | some least, _ => invalid (.belowMinimum value least)
        | none, some most => invalid (.aboveMaximum value most)
        | none, none => .ok ()

/-- The valid form of a scalar. -/
def validateScalar (info : Info) (type : ScalarType) (path : String) (value : Value) :
    Except Failure Value :=
  if value.isNull then info.absent path
  else do
    let converted ← type.convert path value
    info.checkChoices path converted
    info.checkRange path converted
    return converted

/-! ## Code blocks -/

/-- The text of a line, unless it is null. -/
def codeLine (path : String) : Value → Except Failure (Option String)
  | .null => .ok none
  | .str text => .ok (some text)
  | .bool flag => .ok (some (Value.bool flag).display)
  | .int number => .ok (some (Value.int number).display)
  | .float number => .ok (some (Value.float number).display)
  | value => .error (.invalid path (.wrongType "a line of text" value.typeName))

/-- The texts of lines, of which the first stands at position `index`. -/
def codeLines (path : String) : (index : Nat) → List Value → Except Failure (List String)
  | _, [] => .ok []
  | index, item :: rest => do
      let line? ← codeLine (Path.join path (toString index)) item
      return line?.toList ++ (← codeLines path (index + 1) rest)

/-- The text of lines without white space at its ends, and one line feed. -/
def codeBlock (lines : List String) : String :=
  Text.trimWhite ("\n".intercalate lines) ++ "\n"

/-- The valid form of a code block. -/
def validateCode (info : Info) (path : String) (value : Value) : Except Failure Value :=
  match value with
  | .null => info.absent path
  | .seq items => do return .str (codeBlock (← codeLines path 0 items))
  | .str text => .ok (.str (codeBlock [text]))
  | .bool _ | .int _ | .float _ => .ok (.str (codeBlock [value.display]))
  | .map _ => .error (.invalid path (.wrongType "code block lines" value.typeName))

end Info

end ConfigSchema
