import ConfigSchema.Element.Lookup
import ConfigSchema.Proofs.Element.Layer
import ConfigSchema.Proofs.OrderedMap.Merge

/-!
# Layers on top of layers

Layers can be put on top of each other in any order of steps: only the order of the layers counts.
Sections and categories are merged entry by entry, each entry as its own element tells, and all else
is replaced as a whole or left as it is.

## Main definitions

- `Element.holdsFields` — the element describes mappings whose entries are merged
- `Element.mergeBelow` — how the entries under a key are merged
- `Element.Layered` — where fields are described there is a mapping, or nothing

## Main statements

- `Element.merge_map` — mappings are merged entry by entry
- `Element.merge_laws` — layers can be put together in any order of steps, and a layer adds nothing
  to itself
- `Element.layered_of_validateAt` — the laws apply to what validation gives
-/

namespace ConfigSchema.Element

variable {element : Element} {info : Info} {mode : Mode} {path : String}

/-- Whether the element describes mappings that are merged entry by entry. -/
def holdsFields : Element → Bool
  | keyed _ _ _ | category _ _ _ _ => true
  | scalar _ _ | code _ | list _ _ _ _ | derived _ _ => false

/-- How the entries under a key are merged: as the element of the key tells, if there is one. -/
def mergeBelow (element : Element) (key : String) (base overlay : Value) : Value :=
  match element.child? key with
  | some child => child.merge base overlay
  | none => if overlay.isNull then base else overlay

theorem key_of_isNamed {name : String} (h : element.isNamed name) : element.key = name := by
  rw [isNamed, beq_iff_eq] at h
  rw [key, h, Option.getD_some]

theorem mem_parts_of_child? {key : String} {child : Element}
    (h : element.child? key = some child) : child ∈ element.parts := by
  cases element with
  | keyed info children extraKeys => exact List.mem_of_find?_eq_some h
  | category info item minEntries defaultKey? =>
    obtain rfl := Option.some.inj h
    exact List.mem_singleton.mpr rfl
  | list info item minLength? maxLength? =>
    simp only [child?] at h
    split at h
    · obtain rfl := Option.some.inj h
      exact List.mem_singleton.mpr rfl
    · cases h
  | _ => cases h

/-! ## Merging a value -/

/-- A layer without a value shows the base. -/
@[simp] theorem merge_null (element : Element) (base : Value) :
    element.merge base .null = base := by
  cases element <;> rw [merge.eq_def]

theorem mergeChild_eq (children : List Element) (key : String) (base overlay : Value) :
    mergeChild children key base overlay =
      match children.find? (·.isNamed key) with
      | some child => child.merge base overlay
      | none => if overlay.isNull then base else overlay := by
  induction children with
  | nil => rfl
  | cons child rest ih =>
    rw [mergeChild, List.find?_cons]
    by_cases hnamed : child.isNamed key
    · simp [hnamed]
    · simp [hnamed, ih]

/-- Where fields are described, mappings are merged entry by entry. -/
theorem merge_map (h : element.holdsFields) (base overlay : OrderedMap Value) :
    element.merge (.map base) (.map overlay) =
      .map (base.mergeWith element.mergeBelow overlay) := by
  cases element with
  | keyed info children extraKeys =>
    rw [merge, OrderedMap.mergeWith]
    congr 2
    funext out entry
    cases hget : out.get? entry.1 with
    | none => simp [hget]
    | some existing =>
      simp only [hget, mergeChild_eq]
      rfl
  | category info item minEntries defaultKey? =>
    rw [merge, OrderedMap.mergeWith]
    congr 2
    funext out entry
    cases hget : out.get? entry.1 with
    | none => simp [hget]
    | some existing =>
      simp only [hget]
      rfl
  | _ => cases h

/-- Where fields are described, a mapping on top of nothing is the mapping. -/
theorem null_merge_map (element : Element) (overlay : OrderedMap Value) :
    element.merge .null (.map overlay) = .map overlay := by
  cases element <;> rfl

/-- The layer leaves the value open: it is null, or an empty list in place of a list. -/
def Leaves (element : Element) (overlay : Value) : Prop :=
  overlay = .null ∨ element.isList ∧ overlay = .seq []

theorem merge_of_leaves {overlay : Value} (h : element.Leaves overlay) (base : Value) :
    element.merge base overlay = base := by
  rcases h with rfl | ⟨hlist, rfl⟩
  · exact element.merge_null base
  · cases element with
    | list info item minLength? maxLength? => rfl
    | _ => cases hlist

/-- Where no fields are described, a value that is not left open replaces the other. -/
theorem merge_of_not_leaves {overlay : Value} (hbare : element.holdsFields = false)
    (h : ¬element.Leaves overlay) (base : Value) : element.merge base overlay = overlay := by
  have hnull : overlay ≠ .null := fun heq => h (.inl heq)
  cases element with
  | keyed info children extraKeys => cases hbare
  | category info item minEntries defaultKey? => cases hbare
  | list info item minLength? maxLength? =>
    have hempty : overlay ≠ .seq [] := fun heq => h (.inr ⟨rfl, heq⟩)
    rw [merge.eq_def]
    split <;> simp_all
  | _ =>
    rw [merge.eq_def]
    split <;> simp_all

/-! ## Laws -/

/-- Wherever the element describes fields, at any depth, there is a mapping or null. Nothing is
asked of the items of lists, which are replaced as a whole. -/
inductive Layered : Element → Value → Prop
  | null (element : Element) : Layered element .null
  | fields {element : Element} {fields : OrderedMap Value}
      (h : ∀ entry ∈ fields.entries, ∀ child, element.child? entry.1 = some child →
        Layered child entry.2) : Layered element (.map fields)
  | bare {element : Element} {value : Value} (h : element.holdsFields = false) :
      Layered element value

namespace Layered

theorem null_or_map {value : Value} (h : element.Layered value) (hfields : element.holdsFields) :
    value = .null ∨ ∃ fields, value = .map fields ∧ ∀ entry ∈ fields.entries, ∀ child,
      element.child? entry.1 = some child → child.Layered entry.2 := by
  cases h with
  | null => exact .inl rfl
  | fields h => exact .inr ⟨_, rfl, h⟩
  | bare hbare =>
    rw [hfields] at hbare
    cases hbare

end Layered

/-- Three layers can be put on top of each other in either order of steps. -/
theorem merge_assoc (element : Element) {a b c : Value} (ha : a.Proper) (hb : b.Proper)
    (hc : c.Proper) (hla : element.Layered a) (hlb : element.Layered b)
    (hlc : element.Layered c) :
    element.merge (element.merge a b) c = element.merge a (element.merge b c) := by
  induction element using induction_parts generalizing a b c with
  | h element ih =>
    cases hfields : element.holdsFields with
    | false =>
      -- the last layer that does not leave the value open is what both sides show
      by_cases hcOpen : element.Leaves c
      · rw [merge_of_leaves hcOpen, merge_of_leaves hcOpen]
      · by_cases hbOpen : element.Leaves b
        · rw [merge_of_leaves hbOpen, merge_of_not_leaves hfields hcOpen b]
        · simp only [merge_of_not_leaves hfields hcOpen]
    | true =>
      rcases hlc.null_or_map hfields with rfl | ⟨z, rfl, hz⟩
      · rw [merge_null, merge_null]
      rcases hlb.null_or_map hfields with rfl | ⟨y, rfl, hy⟩
      · rw [merge_null, null_merge_map]
      rcases hla.null_or_map hfields with rfl | ⟨x, rfl, hx⟩
      · rw [null_merge_map, merge_map hfields, null_merge_map]
      simp only [merge_map hfields]
      congr 1
      refine OrderedMap.mergeWith_assoc ha.self hb.self hc.self fun key u v w hu hv hw => ?_
      cases hchild : element.child? key with
      | some child =>
        simp only [mergeBelow, hchild]
        replace hu := OrderedMap.mem_of_lookup hu
        replace hv := OrderedMap.mem_of_lookup hv
        replace hw := OrderedMap.mem_of_lookup hw
        exact ih child (mem_parts_of_child? hchild) (ha.of_field hu) (hb.of_field hv)
          (hc.of_field hw) (hx _ hu child hchild) (hy _ hv child hchild) (hz _ hw child hchild)
      | none =>
        simp only [mergeBelow, hchild]
        cases hnull : w.isNull <;> simp [hnull]

/-- A layer adds nothing to itself. -/
theorem merge_self (element : Element) {a : Value} (ha : a.Proper) : element.merge a a = a := by
  induction element using induction_parts generalizing a with
  | h element ih =>
    by_cases hopen : element.Leaves a
    · exact merge_of_leaves hopen a
    by_cases hfields : element.holdsFields
    · cases a with
      | map fields =>
        rw [merge_map hfields]
        congr 1
        refine OrderedMap.mergeWith_self ha.self fun key value hvalue => ?_
        cases hchild : element.child? key with
        | some child =>
          simp only [mergeBelow, hchild]
          exact ih child (mem_parts_of_child? hchild)
            (ha.of_field (OrderedMap.mem_of_lookup hvalue))
        | none => simp [mergeBelow, hchild]
      | null => exact merge_null element .null
      | seq items =>
        cases element with
        | keyed info children extraKeys => cases items <;> rfl
        | category info item minEntries defaultKey? => cases items <;> rfl
        | _ => cases hfields
      | _ => cases element <;> rfl
    · exact merge_of_not_leaves (by simpa using hfields) hopen a

/-- Layers can be put together in any order of steps, a layer adds nothing to itself, and where
fields are described the keys of the base come first, and then the new ones. -/
theorem merge_laws (element : Element) {a b c : Value} (ha : a.Proper) (hb : b.Proper)
    (hc : c.Proper) (hla : element.Layered a) (hlb : element.Layered b)
    (hlc : element.Layered c) :
    element.merge (element.merge a b) c = element.merge a (element.merge b c) ∧
      element.merge a a = a ∧
      ∀ base overlay, element.holdsFields → a = .map base → b = .map overlay →
        ∃ merged, element.merge a b = .map merged ∧
          merged.keys = base.keys ++ overlay.keys.filter fun key => !base.contains key := by
  refine ⟨element.merge_assoc ha hb hc hla hlb hlc, element.merge_self ha, ?_⟩
  rintro base overlay hfields rfl rfl
  exact ⟨_, merge_map hfields base overlay, OrderedMap.keys_mergeWith base hb.self⟩

/-! ## What validation gives -/

theorem layered_of_validateAt_keyed {children : List Element} {extraKeys : Bool}
    (hc : (keyed info children extraKeys).Checked)
    (hs : (keyed info children extraKeys).Everywhere Settled)
    (ih : ∀ child ∈ children, ∀ path value document, value.Proper →
      child.validateAt mode path value = .ok document → child.Layered document)
    {value document : Value} (hvalue : value.Proper) (hreads : mode.Reads value)
    (h : (keyed info children extraKeys).validateAt mode path value = .ok document) :
    (keyed info children extraKeys).Layered document := by
  obtain ⟨fields, result, hfields, rfl, hdistinct, hresult⟩ :=
    exists_of_validateAt_keyed hc (hs.imp fun _ => Settled.toPlain) hreads h
  obtain ⟨-, -, hproper⟩ := sectionFields_eq_ok hc hs
    (fun child hchild _ _ _ => Settled.isForm (hc.child hchild).2.2 (hs.child hchild)) hvalue
    hfields
  refine .fields fun entry hentry child hnamed => ?_
  have hchild : child ∈ children := List.mem_of_find?_eq_some hnamed
  by_cases hderived : child.isDerived
  · cases child with
    | derived => exact .bare rfl
    | _ => cases hderived
  · have hkey : child.key = entry.1 := key_of_isNamed (List.find?_some hnamed :)
    obtain ⟨inner, hinner, hvalid⟩ := hresult child hchild (by simpa using hderived)
    have hsame : some entry.2 = some inner := by
      rw [← hinner, hkey]
      exact (OrderedMap.lookup_of_mem hdistinct hentry).symm
    rw [Option.some.inj hsame]
    exact ih child hchild _ _ _ (.getD hproper child.key) hvalid

theorem layered_of_validateAt_category {item : Element} {minEntries : Nat}
    {defaultKey? : Option String}
    (hs : (category info item minEntries defaultKey?).Everywhere Settled)
    (ih : ∀ path value document, value.Proper →
      item.validateAt mode path value = .ok document → item.Layered document)
    {value document : Value} (hvalue : value.Proper) (hreads : mode.Reads value)
    (h : (category info item minEntries defaultKey?).validateAt mode path value = .ok document) :
    (category info item minEntries defaultKey?).Layered document := by
  have hdistinct : ∀ fields, info.categoryFields path value = .ok fields → fields.Distinct :=
    fun _ hfields => (categoryFields_eq_ok hvalue hfields).1
  obtain ⟨fields, shared?, others, valids, hfields, hshared, hvalids, -, rfl⟩ :=
    (validateAt_category_eq_ok hs.entry.self.toPlain hreads
      (fun _ => hs.self.category _ _ _ _ rfl) hdistinct).mp h
  obtain ⟨hd, -, hproper⟩ := categoryFields_eq_ok hvalue hfields
  refine .fields fun valid hvalid child hnamed => ?_
  obtain rfl : item = child := Option.some.inj hnamed
  obtain ⟨entry, hentry, -, -, hvalidate⟩ := Outcome.exists_of_forall₂ hvalids hvalid
  exact ih _ _ _ (proper_of_takeShared hd hproper hshared hentry) hvalidate

/-- What validation gives holds mappings or nothing where fields are described, whether it is a
whole document or a layer. -/
theorem layered_of_validateAt {element : Element} (hc : element.Checked)
    (hs : element.Everywhere Settled) {value document : Value} (hvalue : value.Proper)
    (h : element.validateAt mode path value = .ok document) : element.Layered document := by
  induction element using Element.induction generalizing path value document with
  | keyed info children extraKeys ih =>
    rcases mode.reads_or value with hreads | ⟨rfl, rfl⟩
    · exact layered_of_validateAt_keyed hc hs (fun child hchild path value document hvalue h =>
        ih child hchild (hc.child hchild).2.2 (hs.child hchild) hvalue h) hvalue hreads h
    · obtain rfl := Except.ok.inj h
      exact .null _
  | category info item minEntries defaultKey? ih =>
    rcases mode.reads_or value with hreads | ⟨rfl, rfl⟩
    · exact layered_of_validateAt_category hs (fun path value document hvalue h =>
        ih hc.entry hs.entry hvalue h) hvalue hreads h
    · obtain rfl := Except.ok.inj h
      exact .null _
  | _ => exact .bare rfl

/-- A layer of the fleet that opens one more garage. -/
def garageLayer : Value := .map ⟨[
  ("cars", .null),
  ("garages", .map ⟨[
    ("south", .map ⟨[("spaces", .int 1), ("door", .null), ("city", .null)]⟩)]⟩),
  ("notes", .null),
  ("car_count", .int 0)]⟩

/-- The document of the fleet, its layer and one more garage are put together in either order. -/
theorem merge_laws_fleet :
    let fleet := Samples.fleet
    fleet.merge (fleet.merge fleetDocument fleetLayer) garageLayer =
        fleet.merge fleetDocument (fleet.merge fleetLayer garageLayer) ∧
      fleet.merge fleetDocument fleetDocument = fleetDocument ∧
      ∃ merged, fleet.merge fleetDocument fleetLayer = .map merged ∧
        merged.keys = ["cars", "garages", "notes", "car_count"] := by
  have hproper : fleetDocument.Proper ∧ fleetLayer.Proper ∧ garageLayer.Proper := by
    simp [fleetDocument, fleetLayer, garageLayer, Value.Proper.of_scalar, OrderedMap.Distinct,
      OrderedMap.keys]
  obtain ⟨hdocument, hlayer, hgarage⟩ := hproper
  have hlayered : ∀ mode value document, value.Proper →
      Samples.fleet.validateAt mode "" value = .ok document → Samples.fleet.Layered document :=
    fun _ _ _ => layered_of_validateAt ⟨"", false, rfl⟩ replayable_fleet.settled
  obtain ⟨hassoc, hself, hkeys⟩ := merge_laws Samples.fleet hdocument hlayer hgarage
    (hlayered .full _ _ hdocument rfl) (hlayered .layer _ _ hlayer rfl)
    (hlayered .layer _ _ hgarage rfl)
  exact ⟨hassoc, hself, hkeys _ _ rfl rfl rfl⟩

end ConfigSchema.Element
