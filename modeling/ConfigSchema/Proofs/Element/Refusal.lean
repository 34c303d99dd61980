import ConfigSchema.Proofs.Element.Default

/-!
# A consistent schema is never to blame

Validation ends in a schema failure at two places only: where it comes to a computed element on its
own, and where it comes to a pattern that is malformed. The check finds both, wherever validation
comes to. So a consistent schema refuses documents and layers only for what is missing, unknown or
invalid in them, whatever the last steps and the computations of the schema are.

## Main definitions

- `Failure.IsRefusal` — a failure that puts the blame on the document
- `OnlyRefuses` — a computation fails with refusals only
- `Element.Entered` — the parts of a schema that validation comes to
- `Element.Usable` — the element itself does not make validation blame the schema

## Main statements

- `Element.onlyRefuses_validateAt` — validation only refuses, if all parts that it comes to are
  usable
- `Element.usable_of_entered` — the parts of a consistent schema that validation comes to are usable
- `Element.validate_refuses` — a consistent schema is not to blame for a failure
-/

namespace ConfigSchema

/-- The failure puts the blame on the document: something in it is missing, unknown or invalid. -/
def Failure.IsRefusal : Failure → Prop
  | .missing _ | .unknown _ | .invalid _ _ => True
  | .parse _ | .schema _ _ | .unresolved _ _ | .decode _ | .stream _ => False

/-- If the computation fails, it fails with a refusal. -/
def OnlyRefuses {α : Type} (x : Except Failure α) : Prop :=
  ∀ failure, x = .error failure → failure.IsRefusal

namespace OnlyRefuses

variable {α β : Type}

theorem ok (a : α) : OnlyRefuses (.ok a) := Outcome.FailsWith.ok a

theorem error {failure : Failure} (h : failure.IsRefusal) :
    OnlyRefuses (.error failure : Except Failure α) := Outcome.FailsWith.error h

/-- A chain refuses only if its steps do. -/
theorem bind {x : Except Failure α} {f : α → Except Failure β} (hx : OnlyRefuses x)
    (hf : ∀ a, OnlyRefuses (f a)) : OnlyRefuses (x >>= f) := Outcome.FailsWith.bind hx hf

/-- A loop refuses only if its steps do. -/
theorem foldlM {f : β → α → Except Failure β} {as : List α}
    (h : ∀ b, ∀ a ∈ as, OnlyRefuses (f b a)) (b : β) : OnlyRefuses (as.foldlM f b) := by
  intro failure hfailure
  obtain ⟨a, ha, b', hstep⟩ := Outcome.exists_of_foldlM_error hfailure
  exact h b' a ha failure hstep

/-- A traversal refuses only if its steps do. -/
theorem mapM {f : α → Except Failure β} {as : List α} (h : ∀ a ∈ as, OnlyRefuses (f a)) :
    OnlyRefuses (as.mapM f) := by
  intro failure hfailure
  obtain ⟨a, ha, hstep⟩ := Outcome.exists_of_mapM_error hfailure
  exact h a ha failure hstep

end OnlyRefuses

/-! ## Scalars and code blocks -/

/-- Unless the type is a pattern that is malformed. -/
def ScalarType.Compiled : ScalarType → Prop
  | pattern p => p.regex?.isSome
  | str | int | float | bool | path => True

theorem ScalarType.onlyRefuses_convert {type : ScalarType} (h : type.Compiled) (path : String)
    (value : Value) : OnlyRefuses (type.convert path value) := by
  cases type with
  | str =>
    cases value with
    | null | seq _ | map _ => exact .error trivial
    | _ => exact .ok _
  | int =>
    cases value with
    | int number => exact .ok _
    | str text =>
      rw [convert]
      split
      · exact .ok _
      · exact .error trivial
    | _ => exact .error trivial
  | float =>
    cases value with
    | int number | float number => exact .ok _
    | str text =>
      rw [convert]
      split
      · exact .ok _
      · exact .error trivial
    | _ => exact .error trivial
  | bool =>
    cases value with
    | bool flag => exact .ok _
    | _ => exact .error trivial
  | path =>
    cases value with
    | str text =>
      rw [convert]
      split
      · exact .error trivial
      · exact .ok _
    | _ => exact .error trivial
  | pattern p =>
    obtain ⟨regex, hregex⟩ := Option.isSome_iff_exists.mp h
    cases value with
    | str text =>
      rw [convert]
      simp only [hregex]
      split
      · exact .ok _
      · exact .error trivial
    | _ => exact .error trivial

namespace Info

variable (info : Info) (path : String)

theorem onlyRefuses_absent : OnlyRefuses (info.absent path) := by
  unfold absent
  split
  · exact .ok _
  · split
    · exact .error trivial
    · exact .ok _

theorem onlyRefuses_checkChoices (value : Value) : OnlyRefuses (info.checkChoices path value) := by
  unfold checkChoices
  split
  · exact .ok _
  · exact .error trivial

theorem onlyRefuses_checkRange (value : Value) : OnlyRefuses (info.checkRange path value) := by
  unfold checkRange
  dsimp only
  split
  · exact .ok _
  · split
    · exact .error trivial
    · split
      · exact .error trivial
      · exact .error trivial
      · exact .ok _

theorem onlyRefuses_validateScalar {type : ScalarType} (h : type.Compiled) (value : Value) :
    OnlyRefuses (info.validateScalar type path value) := by
  unfold validateScalar
  split
  · exact info.onlyRefuses_absent path
  · exact (type.onlyRefuses_convert h path value).bind fun converted =>
      (info.onlyRefuses_checkChoices path converted).bind fun _ =>
        (info.onlyRefuses_checkRange path converted).bind fun _ => .ok _

theorem onlyRefuses_codeLine (line : Value) : OnlyRefuses (codeLine path line) := by
  cases line with
  | seq _ | map _ => exact .error trivial
  | _ => exact .ok _

theorem onlyRefuses_codeLines (index : Nat) (lines : List Value) :
    OnlyRefuses (codeLines path index lines) := by
  induction lines generalizing index with
  | nil => exact .ok _
  | cons line rest ih =>
    exact (onlyRefuses_codeLine _ line).bind fun _ => (ih (index + 1)).bind fun _ => .ok _

theorem onlyRefuses_validateCode (value : Value) :
    OnlyRefuses (info.validateCode path value) := by
  cases value with
  | null => exact info.onlyRefuses_absent path
  | seq lines => exact (onlyRefuses_codeLines path 0 lines).bind fun _ => .ok _
  | map fields => exact .error trivial
  | _ => exact .ok _

/-! ## What a collection is validated from -/

theorem onlyRefuses_foldEntries (keyCase : KeyCase) (out : OrderedMap Value)
    (entries : List (String × Value)) : OnlyRefuses (foldEntries keyCase path out entries) := by
  induction entries generalizing out with
  | nil => exact .ok _
  | cons entry rest ih =>
    rw [foldEntries]
    split
    · exact .error trivial
    · exact ih _

theorem onlyRefuses_foldKeys (fields : OrderedMap Value) :
    OnlyRefuses (info.foldKeys path fields) := by
  unfold foldKeys
  split
  · exact .ok _
  · exact onlyRefuses_foldEntries path _ _ _

theorem onlyRefuses_sectionFields (value : Value) :
    OnlyRefuses (info.sectionFields path value) := by
  cases value with
  | null => exact (info.onlyRefuses_absent path).bind fun _ => .ok _
  | map fields => exact info.onlyRefuses_foldKeys path fields
  | _ => exact .error trivial

theorem onlyRefuses_categoryFields (value : Value) :
    OnlyRefuses (info.categoryFields path value) := by
  cases value with
  | null =>
    rw [categoryFields]
    split
    · exact .error trivial
    · exact .ok _
  | map fields => exact info.onlyRefuses_foldKeys path fields
  | _ => exact .error trivial

theorem onlyRefuses_listItems (item : Element) (value : Value) :
    OnlyRefuses (info.listItems item path value) := by
  unfold listItems
  split
  · split
    · exact .ok _
    · split
      · exact .error trivial
      · exact .ok _
  · exact .ok _
  · split
    · exact .error trivial
    · exact .ok _

theorem onlyRefuses_checkKey (key : String) : OnlyRefuses (info.checkKey path key) := by
  unfold checkKey
  split
  · exact .ok _
  · exact .error trivial

end Info

theorem onlyRefuses_undeclaredEntries (children : List Element) (extraKeys : Bool) (path : String)
    (entries : List (String × Value)) :
    OnlyRefuses (undeclaredEntries children extraKeys path entries) := by
  intro failure h
  obtain ⟨-, name, rfl⟩ := Element.undeclaredEntries_eq_error h
  trivial

/-- Taking the shared defaults out of a category refuses only if validating them does. -/
theorem onlyRefuses_takeShared {check : String → Value → Except Failure Value}
    (hcheck : ∀ path value, OnlyRefuses (check path value)) (path : String)
    (defaultKey? : Option String) (fields : OrderedMap Value) :
    OnlyRefuses (takeShared check path defaultKey? fields) := by
  unfold takeShared
  split
  · exact .ok _
  · split
    · exact .ok _
    · exact .ok _
    · exact (hcheck _ _).bind fun _ => .ok _
    · exact .error trivial

theorem onlyRefuses_checkLength (path : String) (minLength? maxLength? : Option Nat)
    (size : Nat) : OnlyRefuses (checkLength path minLength? maxLength? size) := by
  unfold checkLength
  split
  · exact .error trivial
  · exact .error trivial
  · exact .ok _

/-- Computations that fail make the section invalid. -/
theorem onlyRefuses_resolveDerived (path : String) (entries : OrderedMap Value)
    (children : List Element) : OnlyRefuses (resolveDerived path entries children) := by
  induction children generalizing entries with
  | nil => exact .ok _
  | cons child rest ih =>
    cases child with
    | derived info resolve =>
      rw [resolveDerived]
      split
      · exact ih _
      · exact .error trivial
    | _ => exact ih entries

namespace Element

/-! ## Last steps -/

/-- A last step that fails makes the value invalid. -/
theorem onlyRefuses_finish (element : Element) (siblings value : Value) (path : String) :
    OnlyRefuses (element.finish siblings value path) := by
  unfold finish
  split
  · exact .ok _
  · split
    · exact .ok _
    · split
      · exact .ok _
      · exact .error trivial

theorem onlyRefuses_finishEntry (element : Element) (path : String) (fields : OrderedMap Value)
    (key : String) : OnlyRefuses (element.finishEntry path fields key) :=
  (element.onlyRefuses_finish _ _ _).bind fun _ => .ok _

theorem onlyRefuses_finishChildren (path : String) (children : List Element)
    (fields : OrderedMap Value) : OnlyRefuses (finishChildren path children fields) :=
  .foldlM (fun fields child _ => child.onlyRefuses_finishEntry path fields child.key) fields

theorem onlyRefuses_finishEntries (item : Element) (path : String) (fields : OrderedMap Value) :
    OnlyRefuses (item.finishEntries path fields) :=
  .foldlM (fun fields key _ => item.onlyRefuses_finishEntry path fields key) fields

theorem onlyRefuses_finishItems (item : Element) (path : String) (items : List Value) :
    OnlyRefuses (item.finishItems path items) :=
  .foldlM (fun _ _ _ => (item.onlyRefuses_finish _ _ _).bind fun _ => .ok _) items

/-! ## The whole -/

/-- Validation of an element comes to the part. The computed entries of a section are computed, and
not validated. -/
inductive Entered (part : Element) : Element → Prop
  | self : Entered part part
  | child {info : Info} {children : List Element} {extraKeys : Bool} {child : Element}
      (hchild : child ∈ children) (hplain : child.isDerived = false) (h : Entered part child) :
      Entered part (.keyed info children extraKeys)
  | entry {info : Info} {item : Element} {minEntries : Nat} {defaultKey? : Option String}
      (h : Entered part item) : Entered part (.category info item minEntries defaultKey?)
  | item {info : Info} {item : Element} {minLength? maxLength? : Option Nat}
      (h : Entered part item) : Entered part (.list info item minLength? maxLength?)

/-- Validation of a value against the element itself does not end in a schema failure: it is not
computed, and it is no malformed pattern. -/
def Usable : Element → Prop
  | scalar _ type => type.Compiled
  | code _ | keyed _ _ _ | category _ _ _ _ | list _ _ _ _ => True
  | derived _ _ => False

variable {info : Info} {mode : Mode}

/-- A layer leaves null as it is. -/
theorem onlyRefuses_of_reads {element : Element} {path : String} {value : Value}
    (h : mode.Reads value → OnlyRefuses (element.validateAt mode path value)) :
    OnlyRefuses (element.validateAt mode path value) := by
  rcases mode.reads_or value with hreads | ⟨rfl, rfl⟩
  · exact h hreads
  · rw [validateAt_layer_null]
    exact .ok _

theorem onlyRefuses_validateChildren {children : List Element}
    (h : ∀ child ∈ children, child.isDerived = false → ∀ path value,
      OnlyRefuses (child.validateAt mode path value)) (path : String)
    (fields : OrderedMap Value) :
    OnlyRefuses (validateChildren children mode path fields) := by
  intro failure hfailure
  obtain ⟨child, hchild, hplain, hvalid⟩ := exists_of_validateChildren_error hfailure
  exact h child hchild hplain _ _ failure hvalid

theorem onlyRefuses_keyed {children : List Element} {extraKeys : Bool}
    (hchildren : ∀ child ∈ children, child.isDerived = false → ∀ path value,
      OnlyRefuses (child.validateAt mode path value)) (path : String) (value : Value) :
    OnlyRefuses ((keyed info children extraKeys).validateAt mode path value) := by
  refine onlyRefuses_of_reads fun hreads => ?_
  rw [validateAt_keyed hreads]
  exact (info.onlyRefuses_sectionFields path value).bind fun fields =>
    (onlyRefuses_undeclaredEntries children extraKeys path fields.entries).bind fun extras =>
    (onlyRefuses_validateChildren hchildren path fields).bind fun entries =>
    (onlyRefuses_resolveDerived path (.ofList entries) children).bind fun derived =>
    (onlyRefuses_finishChildren path children (derived.insertMany extras)).bind fun _ => .ok _

/-- The entries of a category are validated in either mode, as shared defaults are a layer also in a
whole document. -/
theorem onlyRefuses_category {item : Element} {minEntries : Nat} {defaultKey? : Option String}
    (hitem : ∀ mode path value, OnlyRefuses (item.validateAt mode path value)) (path : String)
    (value : Value) :
    OnlyRefuses ((category info item minEntries defaultKey?).validateAt mode path value) := by
  refine onlyRefuses_of_reads fun hreads => ?_
  rw [validateAt_category hreads]
  refine (info.onlyRefuses_categoryFields path value).bind fun fields =>
    (onlyRefuses_takeShared (hitem .layer) path defaultKey? fields).bind fun shared => ?_
  have hentry : ∀ out, ∀ entry ∈ shared.2.entries,
      OnlyRefuses (addEntry info item mode path shared.1 out entry) := fun out entry _ =>
    (info.onlyRefuses_checkKey _ _).bind fun _ => (hitem mode _ _).bind fun _ => .ok _
  refine (OnlyRefuses.foldlM hentry (startEntries info mode)).bind fun entries => ?_
  have hrest : OnlyRefuses (do return Value.map (← item.finishEntries path entries)) :=
    (item.onlyRefuses_finishEntries path entries).bind fun _ => .ok _
  split
  · exact .error trivial
  · exact hrest

theorem onlyRefuses_list {item : Element} {minLength? maxLength? : Option Nat}
    (hitem : ∀ path value, OnlyRefuses (item.validateAt mode path value)) (path : String)
    (value : Value) :
    OnlyRefuses ((list info item minLength? maxLength?).validateAt mode path value) := by
  refine onlyRefuses_of_reads fun hreads => ?_
  rw [validateAt_list hreads]
  refine (info.onlyRefuses_listItems path item value).bind fun items =>
    (onlyRefuses_checkLength path minLength? maxLength? items.length).bind fun _ =>
    (OnlyRefuses.mapM fun entry _ => hitem _ entry.1).bind fun valid => ?_
  split
  · exact .error trivial
  · exact (item.onlyRefuses_finishItems path valid).bind fun _ => .ok _

/-- Validation refuses only, if all parts that it comes to are usable. -/
theorem onlyRefuses_validateAt {element : Element}
    (h : ∀ part : Element, part.Entered element → part.Usable) (mode : Mode) (path : String)
    (value : Value) : OnlyRefuses (element.validateAt mode path value) := by
  induction element using Element.induction generalizing mode path value with
  | scalar info type =>
    refine onlyRefuses_of_reads fun hreads => ?_
    rw [validateAt_scalar hreads]
    exact info.onlyRefuses_validateScalar path (h _ .self) value
  | code info =>
    refine onlyRefuses_of_reads fun hreads => ?_
    rw [validateAt_code hreads]
    exact info.onlyRefuses_validateCode path value
  | keyed info children extraKeys ih =>
    exact onlyRefuses_keyed (fun child hchild hplain =>
      ih child hchild (fun part hpart => h part (.child hchild hplain hpart)) mode) path value
  | category info item minEntries defaultKey? ih =>
    exact onlyRefuses_category (ih fun part hpart => h part (.entry hpart)) path value
  | list info item minLength? maxLength? ih =>
    exact onlyRefuses_list (ih (fun part hpart => h part (.item hpart)) mode) path value
  | derived info resolve => exact absurd (h _ .self) id

/-- A consistent pattern is not malformed. -/
theorem Checked.compiled {type : ScalarType} (hc : (scalar info type).Checked) :
    type.Compiled := by
  obtain ⟨path, inSection, h⟩ := hc
  cases type with
  | pattern p =>
    have hparts := (checkAt_eq_ok_iff.mp h).2.1
    rw [checkParts] at hparts
    split at hparts
    · cases hparts
    · rename_i hregex
      simpa [ScalarType.Compiled, Option.isSome_iff_ne_none] using hregex
  | _ => trivial

/-- The parts of a consistent schema that validation comes to are usable. -/
theorem usable_of_entered {part schema : Element} (hc : schema.Checked)
    (hplain : schema.isDerived = false) (h : part.Entered schema) : part.Usable := by
  induction h with
  | self =>
    cases part with
    | scalar info type => exact hc.compiled
    | derived info resolve => cases hplain
    | _ => trivial
  | child hchild hplainChild _ ih => exact ih (hc.child hchild).2.2 hplainChild
  | entry _ ih => exact ih hc.entry hc.entry_not_derived
  | item _ ih => exact ih hc.item hc.item_not_derived

/-- A consistent schema is not to blame when validation fails: a document or a layer is refused
because something in it is missing, unknown or invalid, and nowhere does validation come to a
computed element on its own or to a malformed pattern. -/
theorem validate_refuses {schema : Element} (hcheck : schema.check = .ok ()) :
    (∀ mode value failure, schema.validate mode value = .error failure → failure.IsRefusal) ∧
      ∀ part : Element, part.Entered schema → part.Usable := by
  have husable : ∀ part : Element, part.Entered schema → part.Usable := fun part hpart =>
    usable_of_entered ⟨"", false, hcheck⟩ (not_derived_of_checkAt hcheck) hpart
  refine ⟨fun mode value => ?_, husable⟩
  exact (onlyRefuses_validateAt husable mode "" value).bind fun valid =>
    schema.onlyRefuses_finish .null valid ""

/-- A mail account. Some addresses are reserved, and an account without one has no label. -/
def mailbox : Element :=
  .keyed {} [
    .scalar
      { name? := some "mail"
        finish? := some fun _ mail =>
          if mail == .str "root@host" then .error "reserved" else .ok mail }
      (.pattern (.ofString "[a-z]+@[a-z]+")),
    .derived { name? := some "label" } fun siblings =>
      match siblings.get? "mail" with
      | some (.str mail) => .ok (.str mail)
      | _ => .error "no mail"] false

/-- A mail account is refused for its address, for the lack of one, and for a reserved one. -/
theorem validate_refuses_mailbox :
    (∀ mail ∈ [Value.str "root", .null, .str "root@host"], ∃ failure,
      mailbox.validate .full (.map ⟨[("mail", mail)]⟩) = .error failure ∧ failure.IsRefusal) ∧
      ∀ part : Element, part.Entered mailbox → part.Usable := by
  have hcheck : mailbox.check = .ok () := rfl
  obtain ⟨hrefuses, husable⟩ := validate_refuses hcheck
  refine ⟨fun mail hmail => ?_, husable⟩
  simp only [List.mem_cons, List.not_mem_nil, or_false] at hmail
  rcases hmail with rfl | rfl | rfl
  · exact ⟨_, rfl, hrefuses .full (.map ⟨[("mail", .str "root")]⟩) _ rfl⟩
  · exact ⟨_, rfl, hrefuses .full (.map ⟨[("mail", .null)]⟩) _ rfl⟩
  · exact ⟨_, rfl, hrefuses .full (.map ⟨[("mail", .str "root@host")]⟩) _ rfl⟩

end Element

end ConfigSchema
