import ConfigSchema.Element

/-!
# Layers

A document can be put on top of another. What the upper one leaves open shows the lower one.

## Main definitions

- `Element.merge` — the merged value: null shows the base, mappings are merged by key, an empty list
  shows the base, and all else replaces it
-/

namespace ConfigSchema.Element

mutual

/-- A value on top of another, as the element tells. -/
def merge : Element → (base overlay : Value) → Value
  | _, base, .null => base
  | keyed _ children _, .map base, .map overlay =>
      .map (overlay.entries.foldl (fun out (key, value) =>
        out.insert key (match out.get? key with
          | some existing => mergeChild children key existing value
          | none => value)) base)
  | category _ item _ _, .map base, .map overlay =>
      .map (overlay.entries.foldl (fun out (key, value) =>
        out.insert key (match out.get? key with
          | some existing => item.merge existing value
          | none => value)) base)
  | list _ _ _ _, base, .seq [] => base
  | _, _, overlay => overlay
termination_by structural element => element

/-- A value on top of another, as the element of that name tells. Without one it replaces the other
unless it is null. -/
def mergeChild : List Element → (key : String) → (base overlay : Value) → Value
  | [], _, base, overlay => if overlay.isNull then base else overlay
  | child :: rest, key, base, overlay =>
      if child.isNamed key then child.merge base overlay else mergeChild rest key base overlay
termination_by structural children => children

end

end ConfigSchema.Element
