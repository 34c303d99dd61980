import ConfigSchema.Element.Navigate
import ConfigSchema.Proofs.OrderedMap
import ConfigSchema.Proofs.Outcome
import ConfigSchema.Samples

/-!
# Places in documents

A place in a document is a lens: what is found at a path is what the place holds, what is put there
is found there, and at a path that parts from it nothing changes, failures included.

## Main definitions

- `Value.child?`, `Value.at?` — what steps lead to in a value, the schema aside
- `Value.Separates` — two steps name different places in a container
- `Value.Diverge` — two paths share their steps up to a container, where they separate
- `Element.Admits` — steps that a schema lets through

## Main statements

- `Element.findFrom_eq_ok_iff` — what is found: the value at the steps, if the schema lets them
  through
- `Element.find_slot` — finding a value and changing it are one lens
-/

namespace ConfigSchema

namespace Value

/-! ## Steps -/

/-- The value one step below: under a key of a mapping, or at a position of a list. -/
def child? (value : Value) (step : String) : Option Value :=
  match value with
  | .map fields => fields.get? step
  | .seq items => (Path.index? step).bind (items[·]?)
  | _ => none

/-- The value that steps lead to. -/
def at? : Value → (steps : List String) → Option Value
  | value, [] => some value
  | value, step :: rest => (value.child? step).bind fun child => child.at? rest

@[simp] theorem at?_nil (value : Value) : value.at? [] = some value := rfl

@[simp] theorem at?_cons (value : Value) (step : String) (rest : List String) :
    value.at? (step :: rest) = (value.child? step).bind fun child => child.at? rest := rfl

/-- Two steps name different places in a container: different keys of a mapping, or different
positions of a list. -/
def Separates : Value → (one other : String) → Prop
  | .map _, one, other => one ≠ other
  | .seq _, one, other => Path.index? one ≠ Path.index? other
  | _, _, _ => False

/-- Two paths diverge at a container in the value: they share the steps that lead to it, and go on
to different places in it. -/
inductive Diverge : Value → (one other : List String) → Prop
  | here {value : Value} {one other : String} (h : value.Separates one other)
      (ones others : List String) : Diverge value (one :: ones) (other :: others)
  | step {value child : Value} {step : String} {ones others : List String}
      (hchild : value.child? step = some child) (h : Diverge child ones others) :
      Diverge value (step :: ones) (step :: others)

/-- Where there is a value below, there is a container. -/
theorem isNull_of_child? {value child : Value} {step : String}
    (h : value.child? step = some child) : value.isNull = false := by
  cases value <;> first | rfl | cases h

/-- Steps lead to nothing but null from null. -/
theorem isNull_of_at? {value found : Value} {steps : List String} (h : value.at? steps = some found)
    (hfound : found.isNull = false) : value.isNull = false := by
  cases steps with
  | nil =>
    obtain rfl := Option.some.inj h
    exact hfound
  | cons step rest =>
    obtain ⟨child, hchild, -⟩ := Option.bind_eq_some_iff.mp h
    exact isNull_of_child? hchild

theorem position_eq_ok_iff {path step : String} {size index : Nat} :
    position path step size = .ok index ↔ Path.index? step = some index ∧ index < size := by
  rw [position]
  cases Path.index? step with
  | none => simp
  | some found =>
    dsimp only
    split <;> simp <;> omega

/-- A step into a value succeeds exactly if there is a value below. -/
theorem descend_eq_ok_iff {path step : String} {value child : Value} :
    value.descend path step = .ok child ↔ value.child? step = some child := by
  cases value with
  | map fields =>
    rw [descend, child?]
    cases fields.get? step <;> simp
  | seq items =>
    rw [descend, child?]
    simp only [Outcome.bind_eq_ok, position_eq_ok_iff, Outcome.pure_eq_ok, Option.bind_eq_some_iff]
    constructor
    · rintro ⟨index, ⟨hindex, hlt⟩, rfl⟩
      exact ⟨index, hindex, by simp [List.getD, hlt]⟩
    · rintro ⟨index, hindex, hget⟩
      obtain ⟨hlt, rfl⟩ := List.getElem?_eq_some_iff.mp hget
      exact ⟨index, ⟨hindex, hlt⟩, by simp [List.getD, hlt]⟩
  | _ => simp [descend, child?]

/-! ## Putting a value below -/

/-- Putting back what is there changes nothing. -/
theorem putBelow_self {value child : Value} {step : String} (h : value.child? step = some child) :
    value.putBelow step child = value := by
  cases value with
  | map fields =>
    rw [child?] at h
    rw [putBelow, OrderedMap.modify, h]
    exact congrArg Value.map (OrderedMap.insert_of_get? h)
  | seq items =>
    obtain ⟨index, hindex, hget⟩ := Option.bind_eq_some_iff.mp h
    obtain ⟨hlt, rfl⟩ := List.getElem?_eq_some_iff.mp hget
    rw [putBelow, hindex, Option.getD_some, List.set_getElem_self]
  | _ => cases h

/-- What is put below is there. -/
theorem child?_putBelow {value child : Value} {step : String} (h : value.child? step = some child)
    (new : Value) : (value.putBelow step new).child? step = some new := by
  cases value with
  | map fields =>
    rw [child?] at h
    rw [putBelow, OrderedMap.modify, h, child?, OrderedMap.get?_insert, if_pos rfl]
  | seq items =>
    obtain ⟨index, hindex, hget⟩ := Option.bind_eq_some_iff.mp h
    obtain ⟨hlt, -⟩ := List.getElem?_eq_some_iff.mp hget
    rw [putBelow, child?, hindex, Option.getD_some, Option.bind_some, List.getElem?_set_self hlt]
  | _ => cases h

/-- Steps to another place see no difference, not even when they fail. -/
theorem descend_putBelow {value child : Value} {step other : String}
    (h : value.child? step = some child) (hother : value.Separates step other) (new : Value)
    (path : String) : (value.putBelow step new).descend path other = value.descend path other := by
  cases value with
  | map fields =>
    have hne : other ≠ step := Ne.symm hother
    rw [child?] at h
    rw [putBelow, OrderedMap.modify, h, descend, descend, OrderedMap.get?_insert, if_neg hne]
  | seq items =>
    obtain ⟨index, hindex, -⟩ := Option.bind_eq_some_iff.mp h
    have hne : ∀ found, Path.index? other = some found → index ≠ found := by
      rintro found hfound rfl
      exact hother (hindex.trans hfound.symm)
    rw [putBelow, hindex, Option.getD_some, descend, descend, List.length_set]
    cases hposition : position path other items.length with
    | error failure => rfl
    | ok found =>
      have hset := List.getElem?_set_ne (hne found (position_eq_ok_iff.mp hposition).1)
        (l := items) (a := new)
      simp only [Outcome.ok_bind, List.getD_eq_getElem?_getD, hset]
  | _ => cases h

end Value

namespace Element

variable {path : String} {element? : Option Element}

/-! ## Finding -/

/-- The schema lets steps through: each is declared, or leads out of a section that allows further
keys. -/
def Admits : Option Element → (steps : List String) → Prop
  | some element, step :: rest =>
      match element.child? step with
      | some child => Admits (some child) rest
      | none => element.allowsExtraKeys
  | _, _ => True

theorem step_eq_ok_iff {step : String} {rest : List String} :
    (∃ next, Element.step path step element? = .ok next ∧ Admits next rest) ↔
      Admits element? (step :: rest) := by
  cases element? with
  | none => simp [Element.step, Admits]
  | some element =>
    rw [Element.step, Admits]
    cases element.child? step with
    | some child => simp
    | none => cases element.allowsExtraKeys <;> simp [Admits]

/-- What is found at a path is the value there, if the schema lets the path through. -/
theorem findFrom_eq_ok_iff {document value : Value} {steps : List String} :
    findFrom path element? document steps = .ok value ↔
      Admits element? steps ∧ document.at? steps = some value := by
  induction steps generalizing path element? document with
  | nil => cases element? <;> simp [findFrom, Admits]
  | cons step rest ih =>
    rw [← step_eq_ok_iff, Value.at?_cons, findFrom]
    simp only [Outcome.bind_eq_ok, Value.descend_eq_ok_iff, ih, Option.bind_eq_some_iff]
    constructor
    · rintro ⟨next, hnext, child, hchild, hadmits, hat⟩
      exact ⟨⟨next, hnext, hadmits⟩, child, hchild, hat⟩
    · rintro ⟨⟨next, hnext, hadmits⟩, child, hchild, hat⟩
      exact ⟨next, hnext, child, hchild, hadmits, hat⟩

/-! ## Places -/

/-- What is found at a path is what its place holds, and where nothing is found there is no place,
for the same reason. -/
theorem findFrom_eq_slotFrom (path : String) (element? : Option Element) (document : Value)
    (steps : List String) : findFrom path element? document steps =
      (slotFrom path element? document steps).map Slot.value := by
  induction steps generalizing path element? document with
  | nil => rfl
  | cons step rest ih =>
    rw [findFrom, slotFrom]
    cases Element.step (Path.join path step) step element? with
    | error failure => rfl
    | ok next =>
      cases document.descend (Path.join path step) step with
      | error failure => rfl
      | ok child =>
        simp only [Outcome.ok_bind, ih]
        cases slotFrom (Path.join path step) next child rest <;> rfl

/-- A place below a step puts what it is given into the child, and the child into the document. -/
theorem slotFrom_cons_eq_ok {document : Value} {step : String} {rest : List String} {slot : Slot}
    (h : slotFrom path element? document (step :: rest) = .ok slot) :
    ∃ next child inner, document.child? step = some child ∧
      slotFrom (Path.join path step) next child rest = .ok inner ∧
      slot = ⟨inner.value, fun new => document.putBelow step (inner.put new)⟩ := by
  rw [slotFrom] at h
  obtain ⟨next, -, h⟩ := Outcome.bind_eq_ok.mp h
  obtain ⟨child, hchild, h⟩ := Outcome.bind_eq_ok.mp h
  obtain ⟨inner, hinner, h⟩ := Outcome.bind_eq_ok.mp h
  exact ⟨next, child, inner, Value.descend_eq_ok_iff.mp hchild, hinner,
    (Outcome.pure_eq_ok.mp h).symm⟩

/-- Putting back what a place holds changes nothing. -/
theorem put_value {document : Value} {steps : List String} {slot : Slot}
    (h : slotFrom path element? document steps = .ok slot) : slot.put slot.value = document := by
  induction steps generalizing path element? document slot with
  | nil =>
    rw [← Except.ok.inj h]
    rfl
  | cons step rest ih =>
    obtain ⟨next, child, inner, hchild, hinner, rfl⟩ := slotFrom_cons_eq_ok h
    dsimp only
    rw [ih hinner, Value.putBelow_self hchild]

/-- What is put into a place is what its steps lead to. -/
theorem at?_put {document : Value} {steps : List String} {slot : Slot}
    (h : slotFrom path element? document steps = .ok slot) (new : Value) :
    (slot.put new).at? steps = some new := by
  induction steps generalizing path element? document slot with
  | nil =>
    rw [← Except.ok.inj h]
    rfl
  | cons step rest ih =>
    obtain ⟨next, child, inner, hchild, hinner, rfl⟩ := slotFrom_cons_eq_ok h
    rw [Value.at?_cons, Value.child?_putBelow hchild, Option.bind_some, ih hinner]

/-- At a path that diverges from the place, finding gives what it gave before. -/
theorem findFrom_put {document : Value} {steps others : List String}
    (hdiverge : document.Diverge steps others) {slot : Slot}
    (h : slotFrom path element? document steps = .ok slot) (new : Value) (p : String)
    (other? : Option Element) :
    findFrom p other? (slot.put new) others = findFrom p other? document others := by
  induction hdiverge generalizing path element? slot p other? with
  | here hseparates ones others =>
    obtain ⟨next, child, inner, hchild, hinner, rfl⟩ := slotFrom_cons_eq_ok h
    rw [findFrom, findFrom]
    dsimp only
    rw [Value.descend_putBelow hchild hseparates]
  | @step document child step ones others hchild _ ih =>
    obtain ⟨next, found, inner, hfound, hinner, rfl⟩ := slotFrom_cons_eq_ok h
    obtain rfl : found = child := Option.some.inj (hfound.symm.trans hchild)
    have hput := Value.child?_putBelow hchild (inner.put new)
    rw [findFrom, findFrom]
    dsimp only
    rw [Value.descend_eq_ok_iff.mpr hput, Value.descend_eq_ok_iff.mpr hchild]
    simp only [Outcome.ok_bind, ih hinner]

/-- Finding a value and changing it are one lens. A path has a place exactly if something is found
there, for the same reasons otherwise, and what is found is what the place holds. Putting it back
changes nothing, and what is put there is found there. At paths that diverge from this one, finding
gives what it gave before, failures included. -/
theorem find_slot (element : Element) (document : Value) (dotted : String) :
    element.find document dotted = (element.slot document dotted).map Slot.value ∧
      ∀ slot, element.slot document dotted = .ok slot →
        slot.put slot.value = document ∧
        ∀ new, element.find (slot.put new) dotted = .ok new ∧
          ∀ other, document.Diverge (Path.segments dotted) (Path.segments other) →
            element.find (slot.put new) other = element.find document other := by
  have hfind := findFrom_eq_slotFrom "" (some element) document (Path.segments dotted)
  refine ⟨hfind, fun slot hslot => ⟨put_value hslot, fun new => ⟨?_, fun other hdiverge => ?_⟩⟩⟩
  · have hfound : element.find document dotted = .ok slot.value := by
      rw [find, hfind, show slotFrom _ _ _ _ = .ok slot from hslot]
      rfl
    exact findFrom_eq_ok_iff.mpr ⟨(findFrom_eq_ok_iff.mp hfound).1, at?_put hslot new⟩
  · exact findFrom_put hdiverge hslot new "" (some element)

/-- Two cars. -/
def twoCars : Value :=
  .map ⟨[("cars", .seq [.map ⟨[("color", .str "red"), ("year", .int 1999)]⟩,
    .map ⟨[("color", .str "blue")]⟩]), ("notes", .null)]⟩

/-- The second car is painted; that there is no third one is told as before. -/
theorem find_slot_twoCars :
    ∃ slot, Samples.fleet.slot twoCars "cars.1.color" = .ok slot ∧
      slot.value = .str "blue" ∧ slot.put slot.value = twoCars ∧
      Samples.fleet.find (slot.put (.str "green")) "cars.1.color" = .ok (.str "green") ∧
      twoCars.Diverge (Path.segments "cars.1.color") (Path.segments "cars.2.color") ∧
      Samples.fleet.find (slot.put (.str "green")) "cars.2.color" =
        Samples.fleet.find twoCars "cars.2.color" := by
  have hdiverge :
      twoCars.Diverge (Path.segments "cars.1.color") (Path.segments "cars.2.color") := by
    show twoCars.Diverge ["cars", "1", "color"] ["cars", "2", "color"]
    refine .step rfl (.here ?_ _ _)
    show Path.index? "1" ≠ Path.index? "2"
    decide
  obtain ⟨slot, hslot, hvalue⟩ :
      ∃ slot, Samples.fleet.slot twoCars "cars.1.color" = .ok slot ∧ slot.value = .str "blue" :=
    ⟨_, rfl, rfl⟩
  obtain ⟨hself, hput⟩ := (find_slot Samples.fleet twoCars "cars.1.color").2 slot hslot
  obtain ⟨hfound, hothers⟩ := hput (.str "green")
  exact ⟨slot, hslot, hvalue, hself, hfound, hdiverge, hothers "cars.2.color" hdiverge⟩

end Element

end ConfigSchema
