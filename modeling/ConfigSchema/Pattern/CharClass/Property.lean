import ConfigSchema.Pattern.CharClass.Boundary
import ConfigSchema.Text.Script.Shared

/-!
# Classes by property

A pattern can name a class by a property of Unicode. A name is a flag, a category or a script, or it
is a property with one of its values. Case, spaces, dashes and underscores do not count in names,
nor does `is` in front of them.

## Main definitions

- `CharClass.property?` — the class of a name
-/

namespace ConfigSchema.Pattern.CharClass

open ConfigSchema.Text (CharRanges NamedSet)

/-- The characters of a name that count, in lower case. -/
def foldName (name : List Char) : String :=
  let isIgnored (c : Char) : Bool := c == ' ' || c == '_' || c == '-' || 0x80 ≤ c.toNat
  let fold (name : List Char) : String :=
    .ofList ((name.filter (!isIgnored ·)).map Char.toLower)
  match name with
  | i :: s :: rest =>
      if i.toLower == 'i' && s.toLower == 's' then
        let folded := fold rest
        if folded == "c" then "isc" else folded
      else fold name
  | _ => fold name

/-- The characters of the script that a folded name stands for. -/
def script? (name : String) : Option CharRanges := NamedSet.find? Text.scripts name

/-- The characters that the version with a folded name and those before it assigned. -/
def age? (name : String) : Option CharRanges := do
  let index ← Text.ages.findIdx? (·.names.contains name)
  return .unionAll ((Text.ages.take (index + 1)).map (·.ranges))

/-- The class of a folded name that stands alone. -/
def simple? (name : String) : Option CharRanges :=
  ((NamedSet.find? flags name).or (category? name)).or (script? name)

/-- The class of a property with one of its values, both by their folded names. -/
def valued? (property value : String) : Option CharRanges :=
  match property with
  | "generalcategory" | "gc" => category? value
  | "script" | "sc" => script? value
  | "scriptextensions" | "scx" => Text.scriptUsers? value
  | "age" => age? value
  | "graphemeclusterbreak" | "gcb" => NamedSet.find? graphemeBreaks value
  | "wordbreak" | "wb" => NamedSet.find? wordBreaks value
  | "sentencebreak" | "sb" => NamedSet.find? sentenceBreaks value
  | _ => none

/-- The parts of a name before and after the first occurrence of a sign. -/
def splitName (sign : List Char) : (before : List Char) → List Char →
    Option (List Char × List Char)
  | _, [] => none
  | before, c :: cs =>
      if sign.isPrefixOf (c :: cs) then some (before.reverse, (c :: cs).drop sign.length)
      else splitName sign (c :: before) cs

/-- The class of a name, and whether the name asks for all other characters. -/
def property? (name : List Char) : Option (CharRanges × Bool) :=
  let byValue (differs : Bool) (parts : List Char × List Char) : Option (CharRanges × Bool) :=
    (valued? (foldName parts.1) (foldName parts.2)).map (·, differs)
  match splitName ['!', '='] [] name, splitName [':'] [] name, splitName ['='] [] name with
  | some parts, _, _ => byValue true parts
  | none, some parts, _ => byValue false parts
  | none, none, some parts => byValue false parts
  | none, none, none => (simple? (foldName name)).map (·, false)

end ConfigSchema.Pattern.CharClass
