import ConfigSchema.Element

/-!
# Defaults

The default of an element is the one that it declares. Without one a section is made of the defaults
of its children, categories and lists are empty, and all else is null.

## Main definitions

- `Element.defaultAt` — the default of an element at a path
-/

namespace ConfigSchema.Element

mutual

/-- The default of an element at a path. What is required must declare one. -/
def defaultAt : Element → (path : String) → Except Failure Value
  | element, path =>
      match element.info.default? with
      | some value => .ok value
      | none =>
          if element.info.required then .error (.schema path .noDefault)
          else
            match element with
            | keyed _ children _ => do
                let entries ← defaultChildren children path
                match resolveDerived path (.ofList entries) children with
                | .ok fields => return .map fields
                | .error failure => throw (.schema path (.underivableDefault failure))
            | category _ _ _ _ => .ok .emptyMap
            | list _ _ _ _ => .ok (.seq [])
            | scalar _ _ | code _ | derived _ _ => .ok .null
termination_by structural element => element

/-- The defaults of the children of a section. Those that are derived are null. -/
def defaultChildren : List Element → (path : String) → Except Failure (List (String × Value))
  | [], _ => .ok []
  | child :: rest, path => do
      let value ← if child.isDerived then pure .null
        else child.defaultAt (Path.join path child.key)
      return (child.key, value) :: (← defaultChildren rest path)
termination_by structural children => children

end

end ConfigSchema.Element
