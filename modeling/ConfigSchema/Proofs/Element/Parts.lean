import ConfigSchema.Proofs.Element.Check
import ConfigSchema.Proofs.Value.Subvalue
import ConfigSchema.Samples

/-!
# The parts of a schema

An element is a tree of elements, and what is asked of a schema is asked of all of them.

## Main definitions

- `Element.Within` — an element is another one or a part of it, at any depth
- `Element.Everywhere` — an element and all its parts have a property
- `Element.Plain` — no last step of its own
- `Element.HasFixedDefault`, `Element.HasProperDefault` — what is asked of declared defaults
- `Element.Settled` — a plain element with such a default
- `Element.Restorable` — what is left out of the documents of an element can be filled in again
- `Element.Replayable` — all parts of a schema are so
-/

namespace ConfigSchema.Element

/-- To show something of all elements, show it of one whose parts have it. -/
@[elab_as_elim]
theorem induction {motive : Element → Prop} (scalar : ∀ info type, motive (.scalar info type))
    (code : ∀ info, motive (.code info))
    (keyed : ∀ info children extraKeys, (∀ child ∈ children, motive child) →
      motive (.keyed info children extraKeys))
    (category : ∀ info item minEntries defaultKey?, motive item →
      motive (.category info item minEntries defaultKey?))
    (list : ∀ info item minLength? maxLength?, motive item →
      motive (.list info item minLength? maxLength?))
    (derived : ∀ info resolve, motive (.derived info resolve)) (element : Element) :
    motive element :=
  @Element.rec motive (fun children => ∀ child ∈ children, motive child)
    scalar code keyed category list derived (by simp)
    (fun child rest hchild hrest => by simpa using ⟨hchild, hrest⟩) element

/-- The elements that an element is made of. -/
def parts : Element → List Element
  | keyed _ children _ => children
  | category _ item _ _ | list _ item _ _ => [item]
  | scalar _ _ | code _ | derived _ _ => []

/-- To show something of all elements, show it of one whose parts have it, whatever its kind. -/
theorem induction_parts {motive : Element → Prop}
    (h : ∀ element : Element, (∀ inner ∈ element.parts, motive inner) → motive element)
    (element : Element) : motive element := by
  induction element using Element.induction with
  | scalar info type => exact h _ (by simp [parts])
  | code info => exact h _ (by simp [parts])
  | keyed info children extraKeys ih => exact h _ ih
  | category info item minEntries defaultKey? ih => exact h _ (by simpa [parts] using ih)
  | list info item minLength? maxLength? ih => exact h _ (by simpa [parts] using ih)
  | derived info resolve => exact h _ (by simp [parts])

/-- An element is the other one, or one of its parts at any depth. -/
inductive Within (part : Element) : Element → Prop
  | self : Within part part
  | part {element inner : Element} (hinner : inner ∈ element.parts) (h : Within part inner) :
      Within part element

/-- The parts of a consistent schema are consistent. -/
theorem Checked.within {schema part : Element} (hc : schema.Checked) (h : part.Within schema) :
    part.Checked := by
  induction h with
  | self => exact hc
  | @part element inner hinner _ ih =>
    refine ih ?_
    cases element with
    | keyed info children extraKeys => exact (hc.child hinner).2.2
    | category info item minEntries defaultKey? =>
      obtain rfl := List.mem_singleton.mp hinner
      exact hc.entry
    | list info item minLength? maxLength? =>
      obtain rfl := List.mem_singleton.mp hinner
      exact hc.item
    | _ => cases hinner

/-! ## What holds of all parts -/

/-- The element and all its parts have a property. -/
def Everywhere (P : Element → Prop) (schema : Element) : Prop :=
  ∀ part : Element, part.Within schema → P part

namespace Everywhere

variable {P Q : Element → Prop} {element : Element} {info : Info}

theorem self (h : element.Everywhere P) : P element := h element .self

theorem imp (h : element.Everywhere P) (himp : ∀ part, P part → Q part) : element.Everywhere Q :=
  fun part hpart => himp part (h part hpart)

theorem of_part (h : element.Everywhere P) {inner : Element} (hinner : inner ∈ element.parts) :
    inner.Everywhere P :=
  fun part hpart => h part (.part hinner hpart)

/-- What holds of all parts of a schema holds of all parts of a part. -/
theorem of_within (h : element.Everywhere P) {inner : Element} (hinner : inner.Within element) :
    inner.Everywhere P := by
  induction hinner with
  | self => exact h
  | part hinner _ ih => exact ih (h.of_part hinner)

theorem of_parts (hself : P element) (hparts : ∀ inner ∈ element.parts, inner.Everywhere P) :
    element.Everywhere P := by
  intro part hpart
  cases hpart with
  | self => exact hself
  | part hinner h => exact hparts _ hinner part h

theorem child {children : List Element} {extraKeys : Bool}
    (h : (Element.keyed info children extraKeys).Everywhere P) {child : Element}
    (hchild : child ∈ children) : child.Everywhere P := h.of_part hchild

theorem entry {item : Element} {minEntries : Nat} {defaultKey? : Option String}
    (h : (Element.category info item minEntries defaultKey?).Everywhere P) : item.Everywhere P :=
  h.of_part (List.mem_singleton.mpr rfl)

theorem item {item : Element} {minLength? maxLength? : Option Nat}
    (h : (Element.list info item minLength? maxLength?).Everywhere P) : item.Everywhere P :=
  h.of_part (List.mem_singleton.mpr rfl)

theorem iff_parts :
    element.Everywhere P ↔ P element ∧ ∀ inner ∈ element.parts, inner.Everywhere P :=
  ⟨fun h => ⟨h.self, fun _ hinner => h.of_part hinner⟩, fun h => .of_parts h.1 h.2⟩

theorem scalar_iff {type : ScalarType} :
    (Element.scalar info type).Everywhere P ↔ P (.scalar info type) := by
  rw [iff_parts]
  simp [parts]

theorem keyed_iff {children : List Element} {extraKeys : Bool} :
    (Element.keyed info children extraKeys).Everywhere P ↔
      P (.keyed info children extraKeys) ∧ ∀ child ∈ children, child.Everywhere P := iff_parts

theorem category_iff {item : Element} {minEntries : Nat} {defaultKey? : Option String} :
    (Element.category info item minEntries defaultKey?).Everywhere P ↔
      P (.category info item minEntries defaultKey?) ∧ item.Everywhere P := by
  rw [iff_parts, parts, List.forall_mem_singleton]

theorem list_iff {item : Element} {minLength? maxLength? : Option Nat} :
    (Element.list info item minLength? maxLength?).Everywhere P ↔
      P (.list info item minLength? maxLength?) ∧ item.Everywhere P := by
  rw [iff_parts, parts, List.forall_mem_singleton]

theorem derived_iff {resolve : OrderedMap Value → Except String Value} :
    (Element.derived info resolve).Everywhere P ↔ P (.derived info resolve) := by
  rw [iff_parts]
  simp [parts]

end Everywhere

/-- Without a last step, finishing keeps a value. -/
theorem finish_of_unfinished {element : Element} (h : element.info.finish? = none)
    (siblings value : Value) (path : String) : element.finish siblings value path = .ok value := by
  rw [finish, h]

/-- Without a last step, a document is valid if it is valid at the root. -/
theorem validate_of_unfinished {element : Element} (h : element.info.finish? = none) (mode : Mode)
    (value : Value) : element.validate mode value = element.validateAt mode "" value := by
  rw [validate]
  cases element.validateAt mode "" value with
  | error failure => rfl
  | ok valid => exact finish_of_unfinished h .null valid ""

/-! ## What is asked of elements -/

/-- Nothing is changed by a last step of the element. -/
structure Plain (element : Element) : Prop where
  unfinished : element.info.finish? = none

@[simp] theorem plain_iff {element : Element} : element.Plain ↔ element.info.finish? = none :=
  ⟨Plain.unfinished, Plain.mk⟩

namespace Plain

variable {element : Element}

theorem finish (h : element.Plain) (siblings value : Value) (path : String) :
    element.finish siblings value path = .ok value :=
  finish_of_unfinished h.unfinished siblings value path

theorem validate (h : element.Plain) (mode : Mode) (value : Value) :
    element.validate mode value = element.validateAt mode "" value :=
  validate_of_unfinished h.unfinished mode value

end Plain

/-- If the element declares a default, this is a valid document as it stands. -/
structure HasFixedDefault (element : Element) : Prop where
  fixed : ∀ default, element.info.default? = some default →
    element.validate .full default = .ok default

/-- The default of the element has distinct keys in all its mappings, as insertion gives them. -/
structure HasProperDefault (element : Element) : Prop where
  proper : ∀ default, element.info.default? = some default → default.Proper

/-- A plain element whose default is a valid document as it stands. A category has no default of its
own. -/
structure Settled (element : Element) : Prop extends
    element.Plain, element.HasFixedDefault, element.HasProperDefault where
  category : ∀ info item minEntries defaultKey?,
    element = .category info item minEntries defaultKey? → info.default? = none

/-- What is asked of one element so that what is left out of its documents can be filled in again:
it is settled, it is not hidden, and its default is written without a sign on any zero. -/
structure Restorable (element : Element) : Prop extends element.Settled where
  visible : element.info.hidden = false
  plainZeros : ∀ default, element.info.default? = some default → default.PlainZeros

section

variable {element : Element}

/-- What is asked of defaults is true of elements that declare none. -/
theorem of_default {P : Value → Prop} (h : element.info.default? = none) (default : Value)
    (hdefault : element.info.default? = some default) : P default := by
  rw [h] at hdefault
  cases hdefault

theorem HasFixedDefault.of_none (h : element.info.default? = none) : element.HasFixedDefault :=
  ⟨of_default h⟩

theorem HasFixedDefault.of_fixed {default : Value} (hdefault : element.info.default? = some default)
    (h : element.validate .full default = .ok default) : element.HasFixedDefault := by
  constructor
  intro other hother
  rw [hdefault] at hother
  obtain rfl := Option.some.inj hother
  exact h

theorem HasProperDefault.of_none (h : element.info.default? = none) : element.HasProperDefault :=
  ⟨of_default h⟩

theorem Settled.of_default_eq_none (hunfinished : element.info.finish? = none)
    (hdefault : element.info.default? = none) : element.Settled :=
  { HasFixedDefault.of_none hdefault, HasProperDefault.of_none hdefault with
    unfinished := hunfinished
    category := fun info item minEntries defaultKey? heq => by rwa [heq] at hdefault }

/-- A scalar whose default is a valid document as it stands is settled. -/
theorem Settled.of_scalar {info : Info} {type : ScalarType} {default : Value}
    (hunfinished : info.finish? = none) (hdefault : info.default? = some default)
    (hfixed : (scalar info type).validate .full default = .ok default)
    (hseq : ∀ items, default ≠ .seq items) (hmap : ∀ fields, default ≠ .map fields) :
    (scalar info type).Settled :=
  { (show (scalar info type).HasFixedDefault from .of_fixed hdefault hfixed) with
    unfinished := hunfinished
    category := fun _ _ _ _ heq => by cases heq
    proper := fun other hother => by
      obtain rfl := Option.some.inj (hdefault.symm.trans hother)
      exact .of_scalar hseq hmap }

/-- An element without a default is restorable as soon as it is shown and has no last step. -/
theorem Restorable.of_default_eq_none (hvisible : element.info.hidden = false)
    (hunfinished : element.info.finish? = none) (hdefault : element.info.default? = none) :
    element.Restorable :=
  { Settled.of_default_eq_none hunfinished hdefault with
    visible := hvisible
    plainZeros := of_default hdefault }

end

/-! ## What can be filled in again -/

/-- What is left out of the documents of a schema can be filled in again, at any depth. -/
def Replayable (schema : Element) : Prop := ∀ part : Element, part.Within schema → part.Restorable

namespace Replayable

variable {element : Element} {info : Info}

theorem settled (h : element.Replayable) : element.Everywhere Settled :=
  Everywhere.imp h fun _ => Restorable.toSettled

theorem plain (h : element.Replayable) : element.Everywhere Plain :=
  h.settled.imp fun _ => Settled.toPlain

theorem self (h : element.Replayable) : element.Restorable := Everywhere.self h

theorem of_parts (hself : element.Restorable)
    (hparts : ∀ inner ∈ element.parts, inner.Replayable) : element.Replayable :=
  Everywhere.of_parts hself hparts

/-- An element without a default and without parts of other kinds is replayable. -/
theorem of_default_eq_none (hvisible : element.info.hidden = false)
    (hunfinished : element.info.finish? = none) (hdefault : element.info.default? = none)
    (hparts : ∀ inner ∈ element.parts, inner.Replayable) : element.Replayable :=
  .of_parts (.of_default_eq_none hvisible hunfinished hdefault) hparts

theorem child {children : List Element} {extraKeys : Bool}
    (h : (Element.keyed info children extraKeys).Replayable) {child : Element}
    (hchild : child ∈ children) : child.Replayable := Everywhere.child h hchild

theorem entry {item : Element} {minEntries : Nat} {defaultKey? : Option String}
    (h : (Element.category info item minEntries defaultKey?).Replayable) : item.Replayable :=
  Everywhere.entry h

theorem item {item : Element} {minLength? maxLength? : Option Nat}
    (h : (Element.list info item minLength? maxLength?).Replayable) : item.Replayable :=
  Everywhere.item h

theorem validate (h : element.Replayable) (mode : Mode) (value : Value) :
    element.validate mode value = element.validateAt mode "" value :=
  h.plain.self.validate mode value

end Replayable

/-! ## A fleet -/

/-- A raw fleet, with defaults that its garages share. -/
def fleetRaw : Value := .map ⟨[
  ("cars", .seq [.map ⟨[("color", .str "red"), ("make", .str "Fiat")]⟩]),
  ("garages", .map ⟨[
    ("_", .map ⟨[("spaces", .int 2)]⟩),
    ("north", .map ⟨[("city", .str "Oslo")]⟩)]⟩),
  ("notes", .str "one\ntwo")]⟩

/-- The valid document of the raw fleet. -/
def fleetDocument : Value := .map ⟨[
  ("cars", .seq [.map ⟨[
    ("color", .str "red"),
    ("make", .str "Fiat"),
    ("year", .null),
    ("accessories", .map ⟨[]⟩)]⟩]),
  ("garages", .map ⟨[
    ("north", .map ⟨[("spaces", .int 2), ("door", .str "roller"), ("city", .str "Oslo")]⟩)]⟩),
  ("notes", .str "one\ntwo\n"),
  ("car_count", .int 1)]⟩

theorem proper_fleetRaw : fleetRaw.Proper := by
  simp [fleetRaw, Value.Proper, Value.Everywhere.map_iff, Value.Everywhere.seq_iff,
    Value.Everywhere.scalar_iff, Value.HasDistinctKeys, OrderedMap.Distinct, OrderedMap.keys]

/-- Whatever is left out of a fleet can be filled in again. -/
theorem replayable_fleet : Samples.fleet.Replayable := by
  have hcar : Samples.car.Replayable := by
    refine .of_default_eq_none rfl rfl rfl fun inner hinner => ?_
    simp only [Samples.car, parts, List.mem_cons, List.not_mem_nil, or_false] at hinner
    rcases hinner with rfl | rfl | rfl | rfl
    · exact .of_default_eq_none rfl rfl rfl (by simp [parts])
    · exact .of_default_eq_none rfl rfl rfl (by simp [parts])
    · exact .of_default_eq_none rfl rfl rfl (by simp [parts])
    · refine .of_default_eq_none rfl rfl rfl fun slot hslot => ?_
      obtain rfl := List.mem_singleton.mp hslot
      exact .of_default_eq_none rfl rfl rfl (by simp [parts])
  have hdoor :
      Restorable (scalar { name? := some "door", default? := some (.str "roller") } .str) :=
    { Settled.of_scalar rfl rfl rfl (by simp) (by simp) with
      visible := rfl
      plainZeros := fun default hdefault => by
        obtain rfl := Option.some.inj hdefault
        exact .of_scalar (by simp [Value.IsPlainZero]) (by simp) (by simp) }
  refine .of_default_eq_none rfl rfl rfl fun inner hinner => ?_
  simp only [Samples.fleet, parts, List.mem_cons, List.not_mem_nil, or_false] at hinner
  rcases hinner with rfl | rfl | rfl | rfl
  · refine .of_default_eq_none rfl rfl rfl fun item hitem => ?_
    obtain rfl := List.mem_singleton.mp hitem
    exact hcar
  · refine .of_default_eq_none rfl rfl rfl fun item hitem => ?_
    obtain rfl := List.mem_singleton.mp hitem
    refine .of_default_eq_none rfl rfl rfl fun child hchild => ?_
    simp only [parts, List.mem_cons, List.not_mem_nil, or_false] at hchild
    rcases hchild with rfl | rfl | rfl
    · exact .of_default_eq_none rfl rfl rfl (by simp [parts])
    · exact .of_parts hdoor (by simp [parts])
    · exact .of_default_eq_none rfl rfl rfl (by simp [parts])
  · exact .of_default_eq_none rfl rfl rfl (by simp [parts])
  · exact .of_default_eq_none rfl rfl rfl (by simp [parts])

end ConfigSchema.Element
