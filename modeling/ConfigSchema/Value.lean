import ConfigSchema.OrderedMap

/-!
# Document values

A configuration document is a tree of values: the scalars null, bool, integer, float and text,
sequences, and mappings in insertion order.

## Main definitions

- `Value` — the tree
- `Value.sameAs` — equality of documents: order counts, an integer differs from a float, and
  floats compare as numbers, so that NaN differs from itself and the two zeros agree
- `Value.asInt?`, `Value.asFloat?`, … — views of a value as one of its kinds
-/

namespace ConfigSchema

/-- A node of a configuration document. -/
inductive Value where
  | null
  | bool (flag : Bool)
  | int (number : Int64)
  | float (number : Float)
  | str (text : String)
  | seq (items : List Value)
  | map (fields : OrderedMap Value)

namespace Value

instance : Inhabited Value := ⟨null⟩

/-- The mapping without entries. -/
def emptyMap : Value := .map .empty

/-- The kind of a value, as diagnostics name it. -/
def typeName : Value → String
  | null => "null"
  | bool _ => "bool"
  | int _ => "int"
  | float _ => "float"
  | str _ => "str"
  | seq _ => "sequence"
  | map _ => "mapping"

/-- Whether the value is null. -/
def isNull : Value → Bool
  | null => true
  | _ => false

/-- The flag of a bool. -/
def asBool? : Value → Option Bool
  | bool flag => some flag
  | _ => none

/-- The number of an integer. -/
def asInt? : Value → Option Int64
  | int number => some number
  | _ => none

/-- The numeric value of an integer or a float, an integer being rounded to the nearest float. -/
def asFloat? : Value → Option Float
  | int number => some (.ofInt number.toInt)
  | float number => some number
  | _ => none

/-- The text of a string. -/
def asStr? : Value → Option String
  | str text => some text
  | _ => none

/-- The items of a sequence. -/
def asSeq? : Value → Option (List Value)
  | seq items => some items
  | _ => none

/-- The fields of a mapping. -/
def asMap? : Value → Option (OrderedMap Value)
  | map fields => some fields
  | _ => none

/-- The value under a key, when the value is a mapping that has it. -/
def get? (value : Value) (key : String) : Option Value :=
  value.asMap?.bind (·.get? key)

mutual

/-- Equality of documents. -/
def sameAs : Value → Value → Bool
  | null, null => true
  | bool a, bool b => a == b
  | int a, int b => a == b
  | float a, float b => a == b
  | str a, str b => a == b
  | seq as, seq bs => sameItems as bs
  | map ⟨as⟩, map ⟨bs⟩ => sameFields as bs
  | _, _ => false
termination_by structural a => a

/-- Equality of item lists, item by item. -/
def sameItems : List Value → List Value → Bool
  | [], [] => true
  | a :: as, b :: bs => a.sameAs b && sameItems as bs
  | _, _ => false
termination_by structural as => as

/-- Equality of field lists: the same keys in the same order, with equal values. -/
def sameFields : List (String × Value) → List (String × Value) → Bool
  | [], [] => true
  | (k, a) :: as, (l, b) :: bs => k == l && a.sameAs b && sameFields as bs
  | _, _ => false
termination_by structural as => as

end

instance : BEq Value := ⟨sameAs⟩

end Value

end ConfigSchema
