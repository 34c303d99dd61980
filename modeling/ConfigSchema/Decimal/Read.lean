/-!
# Reading numbers

Numbers are read from ASCII digits only. An integer may have one sign; a float may also have a
fraction, an exponent, or be spelled `inf`, `infinity` or `nan` in any case.

## Main definitions

- `readNat?`, `readInt?`, `readInt64?` — integers
- `readFloat?` — floats, rounded to the nearest; what is too large is infinite
-/

namespace ConfigSchema

/-- The value of a digit, for bases up to 16. -/
def digitValue? (base : Nat) (c : Char) : Option Nat :=
  let value? :=
    if c.isDigit then some (c.toNat - '0'.toNat)
    else if 'a' ≤ c && c ≤ 'f' then some (c.toNat - 'a'.toNat + 10)
    else if 'A' ≤ c && c ≤ 'F' then some (c.toNat - 'A'.toNat + 10)
    else none
  value?.filter (· < base)

/-- The value of a list of digits after `acc`. -/
def readDigits? (base : Nat) (acc : Nat) : List Char → Option Nat
  | [] => some acc
  | c :: cs => (digitValue? base c).bind fun digit => readDigits? base (acc * base + digit) cs

/-- The number that a nonempty list of digits spells. -/
def readNat? (base : Nat) (cs : List Char) : Option Nat :=
  if cs.isEmpty then none else readDigits? base 0 cs

/-- The number that digits with at most one sign spell. -/
def readInt? (base : Nat) : List Char → Option Int
  | '-' :: cs => (readNat? base cs).map fun n => -(n : Int)
  | '+' :: cs => (readNat? base cs).map fun n => (n : Int)
  | cs => (readNat? base cs).map fun n => (n : Int)

/-- Whether an integer fits into 64 bits with a sign. -/
def fitsInt64 (n : Int) : Bool := Int64.minValue.toInt ≤ n && n ≤ Int64.maxValue.toInt

/-- The 64-bit integer that a text spells in decimal. -/
def readInt64? (text : String) : Option Int64 :=
  ((readInt? 10 text.toList).filter fitsInt64).map .ofInt

/-! ## Floats -/

/-- The float nearest to `digits · 10 ^ exponent`. Exponents far beyond the range of floats are
decided without computing the power. -/
def nearestFloat (digits : Nat) (exponent : Int) : Float :=
  let place := exponent + (toString digits).length
  if digits == 0 then 0.0
  else if 400 < place then 1.0 / 0.0
  else if place < -400 then 0.0
  else if exponent < 0 then .ofScientific digits true (-exponent).toNat
  else .ofScientific digits false exponent.toNat

/-- The exponent that a text after the mantissa spells; none is zero. -/
def readExponent? : List Char → Option Int
  | [] => some 0
  | c :: cs => if c == 'e' || c == 'E' then readInt? 10 cs else none

/-- Digits without the zeros at their end. -/
def dropLastZeros (cs : List Char) : List Char := (cs.reverse.dropWhile (· == '0')).reverse

/-- The nonnegative float that a text of digits, point and exponent spells. Zeros at the end of the
fraction do not count. -/
def readMagnitude? (cs : List Char) : Option Float :=
  let (whole, rest) := cs.span Char.isDigit
  let (fraction, rest) := match rest with
    | '.' :: rest => rest.span Char.isDigit
    | _ => ([], rest)
  if whole.isEmpty && fraction.isEmpty then none
  else do
    let exponent ← readExponent? rest
    let fraction := dropLastZeros fraction
    let digits ← readDigits? 10 0 (whole ++ fraction)
    return nearestFloat digits (exponent - fraction.length)

/-- The nonnegative float that a text spells as a number or a name. -/
def readUnsigned? (cs : List Char) : Option Float :=
  let name := String.ofList (cs.map Char.toLower)
  if name == "inf" || name == "infinity" then some (1.0 / 0.0)
  else if name == "nan" then some (0.0 / 0.0)
  else readMagnitude? cs

/-- The float that a text spells, with at most one sign. -/
def readFloat? (text : String) : Option Float :=
  match text.toList with
  | '-' :: cs => (readUnsigned? cs).map fun x => -x
  | '+' :: cs => readUnsigned? cs
  | cs => readUnsigned? cs

end ConfigSchema
