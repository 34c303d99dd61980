import ConfigSchema.Decimal.Read
import ConfigSchema.Yaml.Tree

/-!
# The type of a scalar

A plain scalar without a tag of a known type is null, a bool or a number if it is spelled like one,
and text otherwise. A tag of a known type demands that type.

## Main definitions

- `resolvePlain` — the value of a plain scalar
- `resolveTagged` — the value of a scalar under a tag of a known type
-/

namespace ConfigSchema.Yaml

/-- Whether a text spells null. -/
def spellsNull (text : String) : Bool :=
  text == "null" || text == "Null" || text == "NULL" || text == "~"

/-- The bool that a text spells. -/
def readBool? (text : String) : Option Bool :=
  if text == "true" || text == "True" || text == "TRUE" then some true
  else if text == "false" || text == "False" || text == "FALSE" then some false
  else none

/-- Whether a text is a sign. -/
def isSign (c : Char) : Bool := c == '+' || c == '-'

/-- Whether a text has the digits of a number but starts with a zero that a number would not
have. -/
def isZeroPadded (cs : List Char) : Bool :=
  let digits := match cs with
    | c :: rest => if isSign c then rest else cs
    | [] => []
  match digits with
  | '0' :: c :: more => (c :: more).all Char.isDigit
  | _ => false

/-- The base that a prefix of two characters announces. -/
def baseOf? : Char → Option Nat
  | 'x' => some 16
  | 'o' => some 8
  | 'b' => some 2
  | _ => none

/-- The natural number after the prefix of its base. -/
def readPrefixed? : List Char → Option Nat
  | '0' :: c :: digits => (baseOf? c).bind (readNat? · digits)
  | _ => none

/-- Whether the first character is a sign. -/
def startsSigned : List Char → Bool
  | [] => false
  | c :: _ => isSign c

/-- Whether a text announces a base and then gives a sign. -/
def isSignedPrefixed : List Char → Bool
  | '0' :: c :: rest => (baseOf? c).isSome && startsSigned rest
  | _ => false

/-- The nonnegative integer that a text spells, after at most one plus sign. -/
def readUnsignedInt? (cs : List Char) : Option Nat :=
  let body := match cs with
    | '+' :: rest => rest
    | _ => cs
  if isSignedPrefixed body then none
  else (readPrefixed? body).or <|
    if startsSigned body || isZeroPadded cs then none else readNat? 10 body

/-- The negative integer that a text spells after a minus sign. -/
def readNegativeInt? : List Char → Option Int
  | '-' :: body =>
      ((readPrefixed? body).or
        (if isZeroPadded body then none else readNat? 10 body)).map fun n => -(n : Int)
  | _ => none

/-- The integer that a text spells. -/
def readYamlInt? (cs : List Char) : Option Int :=
  ((readUnsignedInt? cs).map fun n => (n : Int)).or (readNegativeInt? cs)

/-- How an integer of a document is taken. -/
inductive IntRange where
  /-- It fits into 64 bits, with a sign if it is negative and without one otherwise. -/
  | word
  /-- It fits into 128 bits, which is too large for an integer and too small for a float. -/
  | double
  /-- It is larger still. -/
  | beyond
deriving DecidableEq, Repr

/-- The range in which an integer lies. -/
def IntRange.of (n : Int) : IntRange :=
  let fits (bits : Nat) : Bool := -Int.ofNat (Nat.pow 2 (bits - 1)) ≤ n && n < Nat.pow 2 bits
  if fits 64 then .word
  else if fits 128 then .double
  else .beyond

/-- The float that a text spells; numbers too large for a float are none. -/
def readYamlFloat? (text : String) : Option Float :=
  let cs := text.toList
  let body := match cs with
    | '+' :: rest => rest
    | _ => cs
  let bodyText := String.ofList body
  if startsSigned cs && body != cs && startsSigned body then none
  else if bodyText == ".inf" || bodyText == ".Inf" || bodyText == ".INF" then some (1.0 / 0.0)
  else if text == "-.inf" || text == "-.Inf" || text == "-.INF" then some (-1.0 / 0.0)
  else if text == ".nan" || text == ".NaN" || text == ".NAN" then some (0.0 / 0.0)
  else (readFloat? bodyText).filter Float.isFinite

/-- The value of a plain scalar, or none if it is an integer too large to be one. -/
def resolvePlain (text : String) : Option Tree :=
  if text.isEmpty || spellsNull text then some .null
  else match readBool? text with
    | some flag => some (.bool flag)
    | none =>
        let cs := text.toList
        let otherwise :=
          if isZeroPadded cs then .str text
          else match readYamlFloat? text with
            | some x => .float x
            | none => .str text
        match readYamlInt? cs with
        | none => some otherwise
        | some n =>
            match IntRange.of n with
            | .word => some (.int n)
            | .double => none
            | .beyond => some otherwise

/-- The types that a tag can demand of a scalar. -/
inductive CoreType where
  | null
  | bool
  | int
  | float
deriving DecidableEq, Repr

/-- The value of a scalar under a tag that demands a type, or none if it does not fit. -/
def resolveTagged (type : CoreType) (text : String) : Option Tree :=
  match type with
  | .null => if spellsNull text then some .null else none
  | .bool => (readBool? text).map .bool
  | .int =>
      match readYamlInt? text.toList with
      | some n => if IntRange.of n == .word then some (.int n) else none
      | none => none
  | .float => (readYamlFloat? text).map .float

end ConfigSchema.Yaml
