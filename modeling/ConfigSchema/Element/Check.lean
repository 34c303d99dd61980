import ConfigSchema.Element.Validate

/-!
# Consistent schemas

A schema can be inconsistent in itself: names may clash, ranges may be empty, defaults may not be
valid. A consistent schema never is the reason why a document is refused.

## Main definitions

- `isName` — the names that elements may have
- `Element.check` — refuses an inconsistent schema
-/

namespace ConfigSchema

/-- Whether a text is a name: a small letter of ASCII, and then small letters, digits and
underscores. -/
def isName (text : String) : Bool :=
  match text.toList with
  | [] => false
  | c :: cs => c.isLower && cs.all fun c => c.isLower || c.isDigit || c == '_'

namespace Element

/-- Checks what an element declares, but for its choices and its default. -/
def checkInfo (element : Element) (path : String) : Except Failure Unit := do
  let info := element.info
  let refuse (fault : SchemaFault) : Except Failure Unit := .error (.schema path fault)
  if let some name := info.name?.filter (!isName ·) then refuse (.invalidName name)
  if info.hidden && info.required && info.default?.isNone then refuse .hiddenRequired
  if (info.min?.isSome || info.max?.isSome) && !element.isNumeric then refuse .misplacedRange
  match info.min?, info.max? with
  | some least, some most => if least > most then refuse (.emptyRange least most)
  | _, _ => pure ()

/-- Checks that an element that declares choices can have some. -/
def checkChoices (element : Element) (path : String) : Except Failure Unit :=
  let applies := match element with
    | scalar _ _ | category _ _ _ _ => true
    | keyed _ _ _ | list _ _ _ _ | code _ | derived _ _ => false
  if element.info.choices.isEmpty || applies then .ok ()
  else .error (.schema path (.misplacedChoices element.kindName))

/-- Checks that the default that an element declares is valid, as a layer. -/
def checkDefault (element : Element) (path : String) : Except Failure Unit :=
  match element.info.default? with
  | none => .ok ()
  | some default =>
      if element.isDerived then .error (.schema path .derivedDefault)
      else
        match element.validateAt .layer path default with
        | .ok _ => .ok ()
        | .error failure => .error (.schema path (.invalidDefault failure))

mutual

/-- Checks an element at a path. Only in a section may it be derived. -/
def checkAt : Element → (path : String) → (inSection : Bool) → Except Failure Unit
  | element, path, inSection => do
      element.checkInfo path
      let refuse (fault : SchemaFault) : Except Failure Unit := .error (.schema path fault)
      match element with
      | scalar _ type =>
          match type with
          | .pattern p => if p.regex?.isNone then refuse .invalidPattern
          | _ => pure ()
      | code _ => pure ()
      | keyed info children _ =>
          if info.keyCase == .upper then refuse .upperKeyCase
          checkChildren children path []
      | category _ item _ defaultKey? =>
          if defaultKey?.isSome && !item.isKeyed then refuse .misplacedDefaultKey
          item.checkAt (Path.join path "*") false
      | list _ item minLength? maxLength? =>
          match minLength?, maxLength? with
          | some least, some most => if least > most then refuse (.emptyLengthRange least most)
          | _, _ => pure ()
          item.checkAt (Path.join path "*") false
      | derived _ _ => if !inSection then refuse .misplacedDerived
      element.checkChoices path
      element.checkDefault path
termination_by structural element => element

/-- Checks the children of a section; `seen` are the names of those before. -/
def checkChildren : List Element → (path : String) → (seen : List String) → Except Failure Unit
  | [], _, _ => .ok ()
  | child :: rest, path, seen =>
      match child.info.name? with
      | none => .error (.schema path .unnamedChild)
      | some name => do
          let childPath := Path.join path name
          if seen.contains name then throw (.schema childPath (.duplicateName name))
          child.checkAt childPath true
          checkChildren rest path (name :: seen)
termination_by structural children => children

end

/-- Refuses an inconsistent schema. -/
def check (element : Element) : Except Failure Unit := element.checkAt "" false

end Element

end ConfigSchema
