import ConfigSchema.Proofs.Float
import ConfigSchema.Proofs.OrderedMap
import ConfigSchema.Value
import Mathlib.Data.List.Forall2

/-!
# The parts of a value

A document value is a tree, and what is said about all of it is said about its parts.

## Main definitions

- `Value.Within` — a value is another one or a part of it, at any depth
- `Value.Everywhere` — a property of a value and of all its parts
- `Value.Proper` — every mapping in the value has distinct keys, as insertion gives it
- `Value.PlainZeros` — no float in the value is negative zero
-/

namespace ConfigSchema.Value

/-- To show something of all values, show it of a collection whose parts have it. -/
@[elab_as_elim]
theorem induction {motive : Value → Prop} (null : motive .null)
    (bool : ∀ flag, motive (.bool flag)) (int : ∀ number, motive (.int number))
    (float : ∀ number, motive (.float number)) (str : ∀ text, motive (.str text))
    (seq : ∀ items, (∀ item ∈ items, motive item) → motive (.seq items))
    (map : ∀ entries : List (String × Value), (∀ entry ∈ entries, motive entry.2) →
      motive (.map ⟨entries⟩)) (value : Value) : motive value :=
  @Value.rec motive (fun items => ∀ item ∈ items, motive item)
    (fun fields => ∀ entry ∈ fields.entries, motive entry.2)
    (fun entries => ∀ entry ∈ entries, motive entry.2) (fun entry => motive entry.2)
    null bool int float str seq (fun fields ih => map fields.entries ih)
    (by simp) (fun item rest hitem hrest => by simpa using ⟨hitem, hrest⟩)
    (fun _ ih => ih) (by simp) (fun entry rest hentry hrest => by
      intro other hother
      rcases List.mem_cons.mp hother with rfl | hmem
      · exact hentry
      · exact hrest other hmem)
    (fun _ _ ih => ih) value

/-- A value is the other one, or one of its parts at any depth. -/
inductive Within (part : Value) : Value → Prop
  | self : Within part part
  | item {items : List Value} {item : Value} (hitem : item ∈ items) (h : Within part item) :
      Within part (.seq items)
  | field {fields : OrderedMap Value} {key : String} {value : Value}
      (hfield : (key, value) ∈ fields.entries) (h : Within part value) :
      Within part (.map fields)

/-! ## What holds of all parts -/

/-- The value and all its parts have a property. -/
def Everywhere (P : Value → Prop) (value : Value) : Prop := ∀ part, part.Within value → P part

namespace Everywhere

variable {P : Value → Prop}

theorem self {value : Value} (h : value.Everywhere P) : P value := h value .self

theorem of_item {items : List Value} (h : (Value.seq items).Everywhere P) {item : Value}
    (hitem : item ∈ items) : item.Everywhere P :=
  fun part hpart => h part (.item hitem hpart)

theorem of_field {fields : OrderedMap Value} (h : (Value.map fields).Everywhere P)
    {entry : String × Value} (hfield : entry ∈ fields.entries) : entry.2.Everywhere P :=
  fun part hpart => h part (.field hfield hpart)

theorem seq {items : List Value} (hself : P (.seq items))
    (h : ∀ item ∈ items, item.Everywhere P) : (Value.seq items).Everywhere P := by
  intro part hpart
  cases hpart with
  | self => exact hself
  | item hitem hwithin => exact h _ hitem part hwithin

theorem map {fields : OrderedMap Value} (hself : P (.map fields))
    (h : ∀ entry ∈ fields.entries, entry.2.Everywhere P) : (Value.map fields).Everywhere P := by
  intro part hpart
  cases hpart with
  | self => exact hself
  | field hfield hwithin => exact h _ hfield part hwithin

/-- A scalar has no parts but itself. -/
theorem of_scalar {value : Value} (hself : P value) (hseq : ∀ items, value ≠ .seq items)
    (hmap : ∀ fields, value ≠ .map fields) : value.Everywhere P := by
  intro part hpart
  cases hpart with
  | self => exact hself
  | item => exact absurd rfl (hseq _)
  | field => exact absurd rfl (hmap _)

theorem seq_iff {items : List Value} :
    (Value.seq items).Everywhere P ↔ P (.seq items) ∧ ∀ item ∈ items, item.Everywhere P :=
  ⟨fun h => ⟨h.self, fun _ hitem => h.of_item hitem⟩, fun h => .seq h.1 h.2⟩

theorem emptyMap (h : P .emptyMap) : Value.emptyMap.Everywhere P :=
  .map h (by simp [OrderedMap.empty])

theorem map_iff {fields : OrderedMap Value} :
    (Value.map fields).Everywhere P ↔
      P (.map fields) ∧ ∀ entry ∈ fields.entries, entry.2.Everywhere P :=
  ⟨fun h => ⟨h.self, fun _ hentry => h.of_field hentry⟩, fun h => .map h.1 h.2⟩

theorem scalar_iff {value : Value} (hseq : ∀ items, value ≠ .seq items)
    (hmap : ∀ fields, value ≠ .map fields) : value.Everywhere P ↔ P value :=
  ⟨fun h => h.self, fun h => .of_scalar h hseq hmap⟩

end Everywhere

/-- The keys of the value are distinct, if it is a mapping. -/
def HasDistinctKeys : Value → Prop
  | map fields => fields.Distinct
  | _ => True

/-- Every mapping in the value has distinct keys. Insertion makes no others. -/
def Proper (value : Value) : Prop := value.Everywhere HasDistinctKeys

/-- A scalar has no keys at all. -/
theorem Proper.of_scalar {value : Value} (hseq : ∀ items, value ≠ .seq items)
    (hmap : ∀ fields, value ≠ .map fields) : value.Proper := by
  refine Everywhere.of_scalar ?_ hseq hmap
  cases value with
  | map fields => exact absurd rfl (hmap fields)
  | _ => trivial

@[simp] theorem Proper.null : Value.null.Proper := .of_scalar (by simp) (by simp)

@[simp] theorem Proper.int (n : Int64) : (Value.int n).Proper := .of_scalar (by simp) (by simp)

@[simp] theorem Proper.str (text : String) : (Value.str text).Proper :=
  .of_scalar (by simp) (by simp)

theorem Proper.emptyMap : Value.emptyMap.Proper := Everywhere.emptyMap List.nodup_nil

@[simp] theorem Proper.seq_iff {items : List Value} :
    (Value.seq items).Proper ↔ ∀ item ∈ items, item.Proper := by
  rw [Proper, Everywhere.seq_iff]
  exact and_iff_right trivial

@[simp] theorem Proper.map_iff {fields : OrderedMap Value} :
    (Value.map fields).Proper ↔
      fields.Distinct ∧ ∀ entry ∈ fields.entries, entry.2.Proper := Everywhere.map_iff

/-- What is under a key, or null. -/
theorem Proper.getD {fields : OrderedMap Value} (h : ∀ entry ∈ fields.entries, entry.2.Proper)
    (key : String) : ((fields.get? key).getD .null).Proper := by
  cases hget : fields.get? key with
  | none => exact .null
  | some value => exact h (key, value) (OrderedMap.mem_of_lookup hget)

/-- The value is not the negative zero. -/
def IsPlainZero (value : Value) : Prop := ∀ x, value = .float x → x ≠ -0.0

/-- No float in the value is negative zero. -/
def PlainZeros (value : Value) : Prop := value.Everywhere IsPlainZero

theorem sameItems_iff (as bs : List Value) :
    sameItems as bs ↔ List.Forall₂ (fun a b => a.sameAs b) as bs := by
  induction as generalizing bs with
  | nil => cases bs <;> simp [sameItems]
  | cons a as ih => cases bs <;> simp [sameItems, ih]

theorem sameFields_iff (as bs : List (String × Value)) :
    sameFields as bs ↔ List.Forall₂ (fun a b => a.1 = b.1 ∧ a.2.sameAs b.2) as bs := by
  induction as generalizing bs with
  | nil => cases bs <;> simp [sameFields]
  | cons a as ih => cases bs <;> simp [sameFields, ih]

private theorem eq_of_forall₂ {α : Type} {R : α → α → Prop} {as bs : List α}
    (h : List.Forall₂ R as bs) (heq : ∀ a ∈ as, ∀ b ∈ bs, R a b → a = b) : as = bs := by
  induction h with
  | nil => rfl
  | cons hab _ ih =>
    rw [heq _ (by simp) _ (by simp) hab]
    rw [ih fun a ha b hb => heq a (by simp [ha]) b (by simp [hb])]

/-- Documents that compare as equal are equal, unless a zero is negative. -/
theorem eq_of_sameAs {a b : Value} (h : a.sameAs b) (ha : a.PlainZeros) (hb : b.PlainZeros) :
    a = b := by
  induction a using Value.induction generalizing b with
  | null => cases b <;> simp_all [sameAs]
  | bool flag => cases b <;> simp_all [sameAs]
  | int number => cases b <;> simp_all [sameAs]
  | str text => cases b <;> simp_all [sameAs]
  | float x =>
    cases b with
    | float y =>
      have hbeq : x == y := by simpa [sameAs] using h
      rw [float_eq_of_beq hbeq (ha.self x rfl) (hb.self y rfl)]
    | _ => simp [sameAs] at h
  | seq as ih =>
    cases b with
    | seq bs =>
      have hsame := (sameItems_iff as bs).mp (by simpa only [sameAs] using h)
      rw [eq_of_forall₂ hsame fun a hma b hmb hab =>
        ih a hma hab (ha.of_item hma) (hb.of_item hmb)]
    | _ => simp [sameAs] at h
  | map as ih =>
    cases b with
    | map fields =>
      obtain ⟨bs⟩ := fields
      have hsame := (sameFields_iff as bs).mp (by simpa only [sameAs] using h)
      rw [eq_of_forall₂ hsame fun a hma b hmb hab =>
        Prod.ext hab.1 (ih a hma hab.2 (ha.of_field hma) (hb.of_field hmb))]
    | _ => simp [sameAs] at h

end ConfigSchema.Value
