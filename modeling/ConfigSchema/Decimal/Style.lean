import ConfigSchema.Decimal.Shortest

/-!
# The text of a float

A float is written with the fewest digits that read back as the same float. Formats differ in when
they use an exponent, whether whole numbers get a fraction, and what they call the values that are
not finite.

## Main definitions

- `FloatParts` — a float as zero, infinity, not a number, or a signed binary number
- `FloatStyle` — the decisions of a format
- `FloatStyle.text` — the text of a float in a format
-/

namespace ConfigSchema

/-- A float, taken apart. -/
inductive FloatParts where
  | notANumber
  | infinite (negative : Bool)
  | zero (negative : Bool)
  | finite (negative : Bool) (magnitude : Binary)
deriving DecidableEq, Repr

/-- The parts of a float. -/
def FloatParts.ofFloat (x : Float) : FloatParts :=
  let bits := x.toBits.toNat
  let hidden := Nat.pow 2 52
  let negative : Bool := bits / Nat.pow 2 63 == 1
  let biased : Nat := bits / hidden % 2048
  let fraction : Nat := bits % hidden
  if biased == 2047 then
    if fraction == 0 then .infinite negative else .notANumber
  else if biased == 0 then
    if fraction == 0 then .zero negative else .finite negative ⟨fraction, -1074, false⟩
  else
    .finite negative ⟨hidden + fraction, (biased : Int) - 1075, fraction == 0 && biased != 1⟩

/-- How a format writes floats. -/
structure FloatStyle where
  /-- The numbers written without exponent: those whose first digit has a place above `leastPlace`
  and at most `greatestPlace`, the place of units being 1. All, if there are no limits. -/
  positional : Option (Int × Int) := none
  /-- Whether a whole number without exponent ends in `.0`. -/
  wholeFraction : Bool := false
  /-- Whether a positive exponent has a sign. -/
  plusSign : Bool := false
  /-- Which of two equally near shortest decimals is written. -/
  tie : Tie := .even
  /-- The text for not a number. -/
  nanText : String
  /-- The text for positive infinity. -/
  infText : String
deriving DecidableEq, Repr

namespace FloatStyle

/-- A number of zeros. -/
def zeros (count : Nat) : String := .ofList (List.replicate count '0')

/-- The text of a positive decimal without exponent; `place` is the place of its first digit. -/
def positionalText (style : FloatStyle) (digits : String) (place : Int) : String :=
  let size := digits.length
  if place ≤ 0 then
    "0." ++ zeros (-place).toNat ++ digits
  else if size ≤ place.toNat then
    digits ++ zeros (place.toNat - size) ++ (if style.wholeFraction then ".0" else "")
  else
    (digits.take place.toNat).toString ++ "." ++ (digits.drop place.toNat).toString

/-- The text of a positive decimal with exponent; `place` is the place of its first digit. -/
def exponentText (style : FloatStyle) (digits : String) (place : Int) : String :=
  let exponent := place - 1
  let sign := if exponent < 0 then "-" else if style.plusSign then "+" else ""
  let lead := (digits.take 1).toString
  let more := (digits.drop 1).toString
  lead ++ (if more.isEmpty then "" else "." ++ more) ++ "e" ++ sign ++ toString exponent.natAbs

/-- The text of a positive decimal. -/
def decimalText (style : FloatStyle) (decimal : Decimal) : String :=
  let digits := toString decimal.digits
  let place := decimal.exponent + digits.length
  match style.positional with
  | none => style.positionalText digits place
  | some (least, greatest) =>
      if least < place && place ≤ greatest then style.positionalText digits place
      else style.exponentText digits place

/-- The sign of a number. -/
def signText (negative : Bool) : String := if negative then "-" else ""

/-- The text of a float. -/
def text (style : FloatStyle) (x : Float) : String :=
  match FloatParts.ofFloat x with
  | .notANumber => style.nanText
  | .infinite negative => signText negative ++ style.infText
  | .zero negative => signText negative ++ (if style.wholeFraction then "0.0" else "0")
  | .finite negative magnitude =>
      signText negative ++ style.decimalText (magnitude.shortest style.tie)

end FloatStyle

end ConfigSchema
