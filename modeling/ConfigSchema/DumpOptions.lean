import ConfigSchema.Failure
import ConfigSchema.Text.Literal
import ConfigSchema.Value.Json

/-!
# Options of dumps

How documents are written: with which comments, and with which entries. The options can be read from
a document value.

## Main definitions

- `DumpOptions` — the options
- `DumpOptions.ofValue?` — the options that a mapping gives by name, or a sequence by position; the
  others keep their defaults
-/

namespace ConfigSchema

/-- How documents are written. -/
structure DumpOptions where
  /-- Comments explain the entries. -/
  showComments : Bool := true
  /-- A comment tells the choices, the range, the pattern or the length. -/
  showChoices : Bool := true
  /-- The greatest number of characters in a line of a comment. -/
  commentWidth : Nat := 80
  /-- Entries of sections that are equal to their default are left out. -/
  omitDefaults : Bool := false
deriving DecidableEq, Repr

/-- A value as the reader of options names it. A float that is not finite counts as null. -/
def Value.described : Value → String
  | null => "null"
  | bool flag => "boolean \x60" ++ (bool flag).display ++ "\x60"
  | int number => "integer \x60" ++ (int number).display ++ "\x60"
  | float number =>
      if number.isFinite then "floating point \x60" ++ jsonFloat.text number ++ "\x60" else "null"
  | str text => "string " ++ Text.literal text
  | seq _ => "sequence"
  | map _ => "map"

namespace DumpOptions

/-- A flag, for an option that is on or off. -/
def flag? (value : Value) : Except DecodeFault Bool :=
  match value with
  | .bool flag => .ok flag
  | _ => .error (.wrongType value.described "a boolean")

/-- A width, which is not negative. -/
def width? (value : Value) : Except DecodeFault Nat :=
  match value with
  | .int number =>
      if number < 0 then .error (.wrongValue value.described "usize")
      else .ok number.toInt.toNat
  | _ => .error (.wrongType value.described "usize")

/-- Sets the option of a name. There are names without one. -/
def set? (opts : DumpOptions) (name : String) (value : Value) :
    Except DecodeFault DumpOptions :=
  match name with
  | "show_comments" => do return { opts with showComments := ← flag? value }
  | "show_choices" => do return { opts with showChoices := ← flag? value }
  | "comment_width" => do return { opts with commentWidth := ← width? value }
  | "omit_defaults" => do return { opts with omitDefaults := ← flag? value }
  | _ => .ok opts

/-- The names of the options, by position. -/
def names : List String := ["show_comments", "show_choices", "comment_width", "omit_defaults"]

/-- The options that a value gives. The names in a mapping are taken in the order of code points. -/
def ofValue? (value : Value) : Except DecodeFault DumpOptions :=
  match value with
  | .map fields =>
      (fields.entries.mergeSort fun a b => !(b.1 < a.1)).foldlM
        (fun opts (name, value) => opts.set? name value) {}
  | .seq items => do
      let opts ← (names.zip items).foldlM (fun opts (name, value) => opts.set? name value) {}
      if names.length < items.length then throw (.tooLong items.length)
      return opts
  | _ => .error (.wrongType value.described "struct DumpOptions")

end DumpOptions

end ConfigSchema
