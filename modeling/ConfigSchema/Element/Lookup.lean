import ConfigSchema.Element.Validate

/-!
# Places in a schema

A path leads through a schema by the names of children. Any key leads into a category, and any
position and `*` into a list.

## Main definitions

- `Element.child?` — the element one step below
- `Element.lookup` — the element at a path
- `Element.withDefaultAt` — a schema with another default at a path
-/

namespace ConfigSchema.Element

/-- The element below this one that a step leads to. -/
def child? (element : Element) (segment : String) : Option Element :=
  match element with
  | keyed _ children _ => children.find? (·.isNamed segment)
  | category _ item _ _ => some item
  | list _ item _ _ =>
      if segment == "*" || (Path.index? segment).isSome then some item else none
  | scalar _ _ | code _ | derived _ _ => none

/-- The element that steps lead to, after those that led to `path`. -/
def lookupFrom : (path : String) → Element → (segments : List String) → Except Failure Element
  | _, element, [] => .ok element
  | path, element, segment :: rest =>
      let path := Path.join path segment
      match element.child? segment with
      | some child => lookupFrom path child rest
      | none => .error (.unresolved path (.noElement element.kindName))

/-- The element at a dotted path. -/
def lookup (element : Element) (dotted : String) : Except Failure Element :=
  lookupFrom "" element (Path.segments dotted)

/-- Changes the first child of a name. Without one there is none. -/
def updateChild (f : Element → Except Failure Element) (segment : String) :
    List Element → Option (Except Failure (List Element))
  | [] => none
  | child :: rest =>
      if child.isNamed segment then
        some (match f child with
          | .ok changed => .ok (changed :: rest)
          | .error failure => .error failure)
      else (updateChild f segment rest).map fun
        | .ok changed => .ok (child :: changed)
        | .error failure => .error failure

/-- Changes the element that steps lead to, after those that led to `path`. -/
def updateFrom (f : Element → Except Failure Element) :
    (path : String) → (segments : List String) → Element → Except Failure Element
  | _, [], element => f element
  | path, segment :: rest, element =>
      let path := Path.join path segment
      let nowhere : Except Failure Element :=
        .error (.unresolved path (.noElement element.kindName))
      match element with
      | keyed info children extraKeys =>
          match updateChild (updateFrom f path rest) segment children with
          | some changed => do return keyed info (← changed) extraKeys
          | none => nowhere
      | category info item minEntries defaultKey? => do
          return category info (← updateFrom f path rest item) minEntries defaultKey?
      | list info item minLength? maxLength? =>
          if segment == "*" || (Path.index? segment).isSome then do
            return list info (← updateFrom f path rest item) minLength? maxLength?
          else nowhere
      | scalar _ _ | code _ | derived _ _ => nowhere

/-- The schema with a default for the element at a dotted path. The default is brought into its
valid form. -/
def withDefaultAt (element : Element) (dotted : String) (value : Value) :
    Except Failure Element :=
  updateFrom (fun target => do
    if target.isDerived then throw (.schema dotted .derivedDefault)
    let valid ← target.validateAt .layer dotted value
    return target.withInfo { target.info with default? := some valid })
    "" (Path.segments dotted) element

end ConfigSchema.Element
