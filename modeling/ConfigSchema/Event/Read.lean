import ConfigSchema.Event.Scalar
import ConfigSchema.ParseFault

/-!
# Events of a text

A YAML text is read into events by way of its tree. Tags with names of their own vanish, and keys
are taken by their text.

## Main definitions

- `keyText?` — the text of a key
- `Yaml.Tree.events` — the events of a tree
- `readEvents` — the stream of a text; a text of white space alone has no node
-/

namespace ConfigSchema

/-- As keys, floats have an exponent where that is shorter, and whole numbers have a fraction. -/
def keyFloat : FloatStyle :=
  { positional := some (-5, 16), wholeFraction := true, nanText := ".nan", infText := ".inf" }

namespace Yaml.Tree

/-- The text of a key. -/
def keyText? : Tree → Except ParseFault String
  | null => .ok "null"
  | bool flag => .ok (if flag then "true" else "false")
  | int number => .ok (toString number)
  | float number => .ok (keyFloat.text number)
  | str text => .ok text
  | seq _ => .error .compoundKey
  | map _ => .error .compoundKey
  | tagged _ content => content.keyText?
termination_by structural tree => tree

mutual

/-- The events of a tree. -/
def events : Tree → Except ParseFault (List Event)
  | null => .ok [.null]
  | bool flag => .ok [.scalar (if flag then "true" else "false") .bool]
  | int number =>
      if fitsInt64 number then .ok [.scalar (toString number) .int]
      else .error (.integerOutOfRange number)
  | float number => .ok [.scalar (eventFloat.text number) .float]
  | str text => .ok [.str text]
  | seq items => do return .sequenceStart :: (← itemEvents items) ++ [.sequenceEnd]
  | map entries => do return .mappingStart :: (← entryEvents entries) ++ [.mappingEnd]
  | tagged _ content => content.events
termination_by structural tree => tree

/-- The events of the items of a sequence. -/
def itemEvents : List Tree → Except ParseFault (List Event)
  | [] => .ok []
  | item :: rest => do return (← item.events) ++ (← itemEvents rest)
termination_by structural items => items

/-- The events of the entries of a mapping. -/
def entryEvents : List (Tree × Tree) → Except ParseFault (List Event)
  | [] => .ok []
  | (key, value) :: rest => do
      let key ← key.keyText?
      let value ← value.events
      return .str key :: value ++ (← entryEvents rest)
termination_by structural entries => entries

end

end Yaml.Tree

/-- The stream of events of a text. -/
def readEvents (text : String) : Except ParseFault (List Event) :=
  if Text.isAllWhite text then .ok [.streamStart, .streamEnd]
  else
    match Yaml.Tree.ofText? text with
    | .error fault => .error (.yaml fault)
    | .ok tree => do return .streamStart :: (← tree.events) ++ [.streamEnd]

end ConfigSchema
