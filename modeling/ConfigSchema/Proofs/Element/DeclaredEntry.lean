import ConfigSchema.Proofs.Element.Derived
import ConfigSchema.Proofs.Element.Template

/-!
# Entries that a category declares

The default of a category declares entries. In a document they are shown as they are where nothing
is given under their keys, and an entry that is given is put on top of the declared one. It is
completed before that: what the section of the entry fills in for a child takes the place of what
the declared entry has for it. Only a child for which nothing is filled in keeps its declared
value.

## Main definitions

- `Element.Unset` — names lead to a part such that no element on the way has a default

## Main statements

- `Element.below?_merge_of_unset` — what is made of an absent value leaves such a part as it is
- `Element.validate_declared` — what a category shows of the entries that it declares
- `Element.validate_declared_overwritten` — a declared number gives way to the default of its child
-/

namespace ConfigSchema

/-- An absent value without a default is null. -/
theorem Info.absent_of_unset {info : Info} {path : String} (hdefault : info.default? = none)
    {filled : Value} (h : info.absent path = .ok filled) : filled = .null := by
  rcases Info.absent_eq_ok.mp h with hsome | ⟨-, -, rfl⟩
  · rw [hdefault] at hsome
    cases hsome
  · rfl

namespace Element

variable {info : Info} {path : String}

/-- Names lead through sections to a part that is none, and no element on the way has a default, the
part included. -/
inductive Unset : Element → (names : List String) → Prop
  | here {element : Element} (hkeyed : element.isKeyed = false)
      (hplain : element.isDerived = false) (hdefault : element.info.default? = none) :
      Unset element []
  | step {info : Info} {children : List Element} {extraKeys : Bool} {child : Element}
      {names : List String} (hdefault : info.default? = none) (hchild : child ∈ children)
      (h : Unset child names) : Unset (keyed info children extraKeys) (child.key :: names)

theorem Unset.not_derived {element : Element} {names : List String} (h : element.Unset names) :
    element.isDerived = false := by
  cases h with
  | here _ hplain => exact hplain
  | step => rfl

/-- An absent category without a default has no entries. -/
theorem eq_empty_of_absent_category {item : Element} {minEntries : Nat}
    {defaultKey? : Option String} (hp : item.Plain) (hdefault : info.default? = none)
    {filled : Value}
    (h : (category info item minEntries defaultKey?).validateAt .full path .null = .ok filled) :
    filled = .map .empty := by
  obtain ⟨fields, shared?, others, entries, hfields, hshared, hentries, -, rfl⟩ :=
    (validateAt_category_iff hp (.inl rfl)).mp h
  rw [Info.eq_empty_of_categoryFields hfields, takeShared_empty] at hshared
  obtain ⟨rfl, rfl⟩ := Prod.mk.inj (Except.ok.inj hshared)
  rw [startEntries_eq_empty fun _ => hdefault] at hentries
  rw [← Except.ok.inj hentries]

/-- A section or a category accepts mappings and null. -/
theorem Accepts.exists_map {element : Element} (hfields : element.holdsFields) {value : Value}
    (hnull : value ≠ .null) (h : element.Accepts value) : ∃ fields, value = .map fields := by
  obtain ⟨layer, h⟩ := h
  cases value with
  | null => exact absurd rfl hnull
  | map fields => exact ⟨fields, rfl⟩
  | _ =>
    cases element with
    | keyed info children extraKeys => cases h
    | category info item minEntries defaultKey? => cases h
    | _ => cases hfields

/-- What is made of an absent value that is no section and has no default leaves the value below it
open: it is null, a list without items or a category without entries. -/
theorem merge_of_absent {element : Element} (hp : element.Everywhere Plain)
    (hkeyed : element.isKeyed = false) (hplain : element.isDerived = false)
    (hdefault : element.info.default? = none) {value filled : Value}
    (haccepts : element.Accepts value) (hnull : value ≠ .null)
    (h : element.validateAt .full path .null = .ok filled) :
    element.merge value filled = value := by
  cases element with
  | scalar info type =>
    rw [validateAt_scalar (.inl rfl)] at h
    rw [Info.absent_of_unset hdefault h, merge_null]
  | code info =>
    rw [validateAt_code (.inl rfl)] at h
    rw [Info.absent_of_unset hdefault h, merge_null]
  | keyed info children extraKeys => cases hkeyed
  | category info item minEntries defaultKey? =>
    obtain ⟨fields, rfl⟩ := haccepts.exists_map rfl hnull
    rw [eq_empty_of_absent_category hp.entry.self hdefault h, merge_map rfl]
    rfl
  | list info item minLength? maxLength? =>
    obtain ⟨items, valids, hitems, -, hvalids, -, rfl⟩ :=
      (validateAt_list_eq_ok hp.item.self (.inl rfl)).mp h
    have hitems : items = [] := by
      rw [Info.listItems, show info.default? = none from hdefault] at hitems
      dsimp only at hitems
      split at hitems
      · cases hitems
      · exact (Except.ok.inj hitems).symm
    subst hitems
    obtain rfl := Outcome.pure_eq_ok.mp hvalids
    exact merge_of_leaves (.inr ⟨rfl, rfl⟩) value
  | derived info resolve => cases hplain

/-- A section that accepts a mapping has children that accept what is there under their names. -/
theorem Accepts.child {children : List Element} {extraKeys : Bool}
    (hc : (keyed info children extraKeys).Checked) {fields : OrderedMap Value}
    (h : (keyed info children extraKeys).Accepts (.map fields)) {child : Element}
    (hchild : child ∈ children) (hplain : child.isDerived = false) {value : Value}
    (hvalue : fields.get? child.key = some value) : child.Accepts value := by
  obtain ⟨layer, hlayer⟩ := h
  obtain ⟨folded, extras, hfolded, -, hvalid⟩ := exists_of_layer_map hlayer
  obtain ⟨q, valid, hvalid⟩ := hvalid child hchild hplain
  rw [Info.get?_of_foldKeys_self hfolded (hc.apply_key hchild) hvalue] at hvalid
  exact accepts_of_validateAt hvalid

/-- What is made of an absent value leaves a part as it is if no element on the way to the part has
a default. -/
theorem below?_merge_of_unset {element : Element} {names : List String} (h : element.Unset names)
    (hc : element.Checked) (hp : element.Everywhere Plain) {value filled inner : Value}
    (haccepts : element.Accepts value)
    (hfilled : element.validateAt .full path .null = .ok filled)
    (hinner : value.below? names = some inner) (hnull : inner ≠ .null) :
    (element.merge value filled).below? names = some inner := by
  induction h generalizing path value filled with
  | here hkeyed hplain hdefault =>
    rw [Value.below?_nil] at hinner
    obtain rfl := Option.some.inj hinner
    rw [merge_of_absent hp hkeyed hplain hdefault haccepts hnull hfilled, Value.below?_nil]
  | @step info children extraKeys child names hdefault hchild hrest ih =>
    cases value with
    | map fields =>
      obtain ⟨below, hbelow, hinner⟩ := Option.bind_eq_some_iff.mp hinner
      -- an absent section is made of absent children
      obtain ⟨fields', result, hfields, rfl, hdistinct, hresult⟩ :=
        exists_of_validateAt_keyed hc hp (.inl rfl) hfilled
      obtain ⟨filled, hget, hfilled⟩ := hresult child hchild hrest.not_derived
      have habsent : fields' = .empty := by
        obtain ⟨default, habsent, hmap⟩ := Outcome.bind_eq_ok.mp hfields
        rw [Info.absent_of_unset hdefault habsent] at hmap
        exact (Outcome.pure_eq_ok.mp hmap).symm
      rw [habsent] at hfilled
      rw [merge_map rfl, Value.below?, hc.get?_mergeWith hchild hdistinct hbelow hget]
      exact ih (hc.child hchild).2.2 (hp.child hchild)
        (haccepts.child hc hchild hrest.not_derived hbelow) hfilled hinner
    | _ => cases hinner

/-! ## Entries of categories -/

/-- A category without shared defaults shows under a key what its default has, what is given, or
what is given on top of what its default has. -/
theorem exists_of_validateAt_category_full {item : Element} {minEntries : Nat} (hp : item.Plain)
    (hcase : info.keyCase = .mixed) {raw : OrderedMap Value} (hraw : raw.Distinct)
    {document : Value}
    (h : (category info item minEntries none).validateAt .full path (.map raw) = .ok document) :
    ∃ result, document = .map result ∧ ∀ key,
      (raw.get? key = none → result.get? key = info.defaultFields.get? key) ∧
      ∀ given, raw.get? key = some given → ∃ valid,
        item.validateAt .full (Path.join path key) given = .ok valid ∧
        result.get? key = some (match info.defaultFields.get? key with
          | some declared => item.merge declared valid
          | none => valid) := by
  obtain ⟨fields, shared?, others, result, hfields, hshared, hresult, -, rfl⟩ :=
    (validateAt_category_iff hp (.inl rfl)).mp h
  have hsame : raw = fields := by
    rw [Info.categoryFields, Info.foldKeys, hcase] at hfields
    exact Except.ok.inj hfields
  subst hsame
  obtain ⟨rfl, rfl⟩ := Prod.mk.inj (Except.ok.inj hshared)
  refine ⟨result, rfl, fun key => ⟨fun hnone => ?_, fun given hgiven => ?_⟩⟩
  · exact get?_foldlM_addEntry ((OrderedMap.get?_eq_none_iff raw key).mp hnone) hresult
  · exact exists_of_mem_foldlM_addEntry hraw (OrderedMap.mem_of_lookup hgiven) hresult

/-- A child that is absent from a section is filled in before the section is put on top of another
one. -/
theorem exists_merge_of_absent_child {children : List Element} {extraKeys : Bool}
    (hc : (keyed info children extraKeys).Checked)
    (hp : (keyed info children extraKeys).Everywhere Plain) {given : OrderedMap Value}
    {valid : Value}
    (h : (keyed info children extraKeys).validateAt .full path (.map given) = .ok valid)
    (fields : OrderedMap Value) :
    ∃ shown, (keyed info children extraKeys).merge (.map fields) valid = .map shown ∧
      ∀ child ∈ children, child.isDerived = false → info.entry? given child.key = none →
        ∀ value, fields.get? child.key = some value → ∃ filled,
          child.validate .full .null = .ok filled ∧
          shown.get? child.key = some (child.merge value filled) := by
  obtain ⟨folded, result, hfolded, rfl, hdistinct, hresult⟩ :=
    exists_of_validateAt_keyed hc hp (.inl rfl) h
  refine ⟨_, merge_map rfl fields result, fun child hchild hplain habsent value hvalue => ?_⟩
  obtain ⟨filled, hget, hfilled⟩ := hresult child hchild hplain
  rw [Info.get?_of_foldKeys hfolded, habsent, Option.getD_none] at hfilled
  refine ⟨filled, ?_, hc.get?_mergeWith hchild hdistinct hvalue hget⟩
  rw [(hp.child hchild).self.validate]
  exact (child.validateAt_alike .full _ "" .null filled).mp hfilled

/-- A category shows the entries that it declares. Where nothing is given under the key, the entry
is as it is declared. Where a section is given without one of the children, the child is filled in
as if it were absent, and what comes out is put on top of the declared value. Every part of this
value stays as it is declared if no default is on the way to it. -/
theorem validate_declared {inner : Info} {children : List Element} {extraKeys : Bool}
    {minEntries : Nat}
    (hcheck : (category info (keyed inner children extraKeys) minEntries none).check = .ok ())
    (hp : (category info (keyed inner children extraKeys) minEntries none).Everywhere Plain)
    (hcase : info.keyCase = .mixed) {declared raw : OrderedMap Value}
    (hdefault : info.default? = some (.map declared)) (hdeclared : (Value.map declared).Proper)
    (hraw : (Value.map raw).Proper) {document : Value}
    (h : (category info (keyed inner children extraKeys) minEntries none).validate .full
      (.map raw) = .ok document) :
    ∃ result, document = .map result ∧
      ∀ key fields, declared.get? key = some (.map fields) →
        (raw.get? key = none → result.get? key = some (.map fields)) ∧
        ∀ given, raw.get? key = some (.map given) →
          ∃ shown, result.get? key = some (.map shown) ∧
            ∀ child ∈ children, child.isDerived = false → inner.entry? given child.key = none →
              ∀ value, fields.get? child.key = some value →
                ∃ filled, child.validate .full .null = .ok filled ∧
                  shown.get? child.key = some (child.merge value filled) ∧
                  ∀ names below, child.Unset names → value.below? names = some below →
                    below ≠ .null → (child.merge value filled).below? names = some below := by
  have hc : (category info (keyed inner children extraKeys) minEntries none).Checked :=
    ⟨"", false, hcheck⟩
  have hstart : info.defaultFields = declared := by
    rw [Info.defaultFields, hdefault]
    rfl
  rw [hp.self.validate] at h
  obtain ⟨result, rfl, hresult⟩ :=
    exists_of_validateAt_category_full hp.entry.self hcase hraw.self h
  rw [hstart] at hresult
  refine ⟨result, rfl, fun key fields hfields => ⟨fun hnone => ?_, fun given hgiven => ?_⟩⟩
  · rw [(hresult key).1 hnone, hfields]
  · obtain ⟨valid, hvalid, hget⟩ := (hresult key).2 _ hgiven
    rw [hfields] at hget
    obtain ⟨shown, hmerge, hshown⟩ := exists_merge_of_absent_child hc.entry hp.entry hvalid fields
    refine ⟨shown, by rw [hget, ← hmerge], fun child hchild hplain habsent value hvalue => ?_⟩
    obtain ⟨filled, hfilled, hchildGet⟩ := hshown child hchild hplain habsent value hvalue
    refine ⟨filled, hfilled, hchildGet, fun names below hunset hbelow hnull => ?_⟩
    -- the declared entry is accepted, and so is what it has for the child
    have haccepts : (keyed inner children extraKeys).Accepts (.map fields) :=
      ((hc.accepts_default hdefault).entries hc hp (by simp) hdeclared).2 _
        (OrderedMap.mem_of_lookup hfields)
    have hinner : child.Accepts value := haccepts.child hc.entry hchild hplain hvalue
    rw [(hp.entry.child hchild).self.validate] at hfilled
    exact below?_merge_of_unset hunset (hc.entry.child hchild).2.2 (hp.entry.child hchild) hinner
      hfilled hbelow hnull

/-- A category of pairs of numbers that declares one, and a default for the first number of each. -/
def declaringCategory : Element :=
  category { default? := some (.map ⟨[("k", .map ⟨[("f", .int 1), ("g", .int 2)]⟩)]⟩) }
    (keyed {} [scalar { name? := some "f", default? := some (.int 5) } .int,
      scalar { name? := some "g" } .int] false) 0 none

theorem everywhere_declaringCategory :
    declaringCategory.Everywhere fun part => part.Plain ∧ part.info.keyCase = .mixed := by
  simp [declaringCategory, Everywhere.category_iff, Everywhere.keyed_iff, Everywhere.scalar_iff,
    info]

theorem proper_declaringCategory :
    (Value.map ⟨[("k", .map ⟨[("f", .int 1), ("g", .int 2)]⟩)]⟩).Proper := by
  simp [Value.Proper.of_scalar, OrderedMap.Distinct, OrderedMap.keys]

theorem proper_emptyEntry : (Value.map ⟨[("k", .emptyMap)]⟩).Proper := by
  simp [Value.emptyMap, OrderedMap.empty, OrderedMap.Distinct, OrderedMap.keys]

/-- The second number of the declared pair is kept when an empty pair is given. -/
theorem validate_declared_kept : ∃ result shown,
    declaringCategory.validate .full (.map ⟨[("k", .emptyMap)]⟩) = .ok (.map result) ∧
      result.get? "k" = some (.map shown) ∧ shown.get? "g" = some (.int 2) := by
  have hvalid : declaringCategory.validate .full (.map ⟨[("k", .emptyMap)]⟩) =
      .ok (.map ⟨[("k", .map ⟨[("f", .int 5), ("g", .int 2)]⟩)]⟩) := rfl
  obtain ⟨result, hresult, hentries⟩ := validate_declared rfl
    (everywhere_declaringCategory.imp fun _ hpart => hpart.1) rfl rfl proper_declaringCategory
    proper_emptyEntry hvalid
  obtain ⟨-, hgiven⟩ := hentries "k" _ rfl
  obtain ⟨shown, hshown, hchildren⟩ := hgiven _ rfl
  obtain ⟨filled, -, hget, hkept⟩ := hchildren (scalar { name? := some "g" } .int) (by simp) rfl rfl
    (.int 2) rfl
  have hbelow := hkept [] (.int 2) (.here rfl rfl rfl) (Value.below?_nil _) (by simp)
  rw [Value.below?_nil] at hbelow
  refine ⟨result, shown, hvalid.trans (congrArg Except.ok hresult), hshown, ?_⟩
  exact hget.trans hbelow

/-- The first number of the declared pair gives way to the default of the section, though the pair
that is given does not touch it. -/
theorem validate_declared_overwritten :
    ¬∀ (info inner : Info) (children : List Element) (extraKeys : Bool) (minEntries : Nat)
      (declared raw result : OrderedMap Value),
      (category info (keyed inner children extraKeys) minEntries none).check = .ok () →
      ((category info (keyed inner children extraKeys) minEntries none).Everywhere
        fun part => part.Plain ∧ part.info.keyCase = .mixed) →
      (∀ child ∈ children, child.isDerived = false) →
      info.default? = some (.map declared) → (Value.map declared).Proper → (Value.map raw).Proper →
      (category info (keyed inner children extraKeys) minEntries none).validate .full (.map raw) =
        .ok (.map result) →
      ∀ key fields, declared.get? key = some (.map fields) →
        ∀ child ∈ children, ∀ value, fields.get? child.key = some value → value ≠ .null →
          (raw.get? key = none ∨
            ∃ given, raw.get? key = some (.map given) ∧ given.get? child.key = none) →
          ∃ shown, result.get? key = some (.map shown) ∧ shown.get? child.key = some value := by
  intro h
  obtain ⟨shown, hshown, hvalue⟩ := h _ _ _ _ _ _ _
    ⟨[("k", .map ⟨[("f", .int 5), ("g", .int 2)]⟩)]⟩ rfl everywhere_declaringCategory
    (by simp [isDerived]) rfl proper_declaringCategory proper_emptyEntry rfl "k" _ rfl
    (scalar { name? := some "f", default? := some (.int 5) } .int) List.mem_cons_self (.int 1) rfl
    (by simp) (.inr ⟨_, rfl, rfl⟩)
  obtain rfl := Value.map.inj (Option.some.inj hshown)
  cases hvalue

end Element

end ConfigSchema
