import ConfigSchema.Proofs.Element.Merge

/-!
# The order of the entries of a section

In which order an author writes the entries of a section does not matter: the valid section has them
in the order of their elements. Where undeclared keys are allowed these keep their order, so there
the order is that of the author.

## Main definitions

- `Element.Reordered` — two raw values differ in the order of the entries of sections only
- `Element.SameEntries` — two mappings have the same entries for a section
- `Element.Follows` — validation gives for one value what it gives for another

## Main statements

- `Element.follows_of_reordered` — reordered values are validated to the same document
- `Element.validate_reordered` — so the order of the entries of a section does not matter

## Design notes

The entries of a category and of a section with extra keys stay where they are, and so do the items
of a list, but what is below them may be reordered. The entry with the shared defaults of a category
is a section like any other of its entries, and the two are put together before they are validated.
-/

namespace ConfigSchema

namespace Element

/-! ## Reordered values -/

mutual

/-- Two raw values differ in nothing but the order of the entries of sections without extra keys. -/
inductive Reordered : Element → Value → Value → Prop
  | same (element : Element) (value : Value) : Reordered element value value
  | keyed {info : Info} {children : List Element} {extraKeys : Bool}
      {fields others : OrderedMap Value}
      (h : SameEntries info.keyCase children extraKeys fields others) :
      Reordered (.keyed info children extraKeys) (.map fields) (.map others)
  | category {info : Info} {item : Element} {minEntries : Nat} {defaultKey? : Option String}
      {fields others : OrderedMap Value} (hkeys : fields.keys = others.keys)
      (hentries : ∀ key value other, fields.get? key = some value →
        others.get? key = some other → Reordered item value other) :
      Reordered (.category info item minEntries defaultKey?) (.map fields) (.map others)
  | list {info : Info} {item : Element} {minLength? maxLength? : Option Nat}
      {items others : List Value} (hlength : items.length = others.length)
      (hitems : ∀ (i : Nat) value other, items[i]? = some value → others[i]? = some other →
        Reordered item value other) :
      Reordered (.list info item minLength? maxLength?) (.seq items) (.seq others)
  /-- A lone section stands for a list of one item. -/
  | lone {info : Info} {item : Element} {minLength? maxLength? : Option Nat}
      {fields others : OrderedMap Value} (h : Reordered item (.map fields) (.map others)) :
      Reordered (.list info item minLength? maxLength?) (.map fields) (.map others)

/-- Two mappings have the same entries for a section, whose keys are brought into a case. -/
inductive SameEntries :
    KeyCase → List Element → Bool → OrderedMap Value → OrderedMap Value → Prop
  /-- A section has the same keys in any order, and in the same order where extra keys are
  allowed. Declared entries may be reordered in turn, and the others are the same. -/
  | intro {keyCase : KeyCase} {children : List Element} {extraKeys : Bool}
      {fields others : OrderedMap Value} (hperm : fields.keys.Perm others.keys)
      (horder : extraKeys → fields.keys = others.keys)
      (hdeclared : ∀ key value other, fields.get? key = some value →
        others.get? key = some other → ∀ child ∈ children,
          child.isNamed (keyCase.apply key) → Reordered child value other)
      (hundeclared : ∀ key value other, fields.get? key = some value →
        others.get? key = some other →
          children.any (·.isNamed (keyCase.apply key)) = false → value = other) :
      SameEntries keyCase children extraKeys fields others

end

mutual

theorem Reordered.symm {element : Element} {value other : Value}
    (h : element.Reordered value other) : element.Reordered other value := by
  cases h with
  | same => exact .same element value
  | keyed h => exact .keyed h.symm
  | category hkeys hentries =>
    exact .category hkeys.symm fun key value other hvalue hother =>
      (hentries key other value hother hvalue).symm
  | list hlength hitems =>
    exact .list hlength.symm fun i value other hvalue hother =>
      (hitems i other value hother hvalue).symm
  | lone h => exact .lone h.symm

theorem SameEntries.symm {keyCase : KeyCase} {children : List Element} {extraKeys : Bool}
    {fields others : OrderedMap Value}
    (h : SameEntries keyCase children extraKeys fields others) :
    SameEntries keyCase children extraKeys others fields := by
  cases h with
  | intro hperm horder hdeclared hundeclared =>
    refine .intro hperm.symm (fun hextra => (horder hextra).symm) ?_ ?_
    · intro key value other hvalue hother child hchild hnamed
      exact (hdeclared key other value hother hvalue child hchild hnamed).symm
    · intro key value other hvalue hother hnone
      exact (hundeclared key other value hother hvalue hnone).symm

end

namespace SameEntries

variable {keyCase : KeyCase} {children : List Element} {extraKeys : Bool}
  {fields others : OrderedMap Value}

theorem refl (keyCase : KeyCase) (children : List Element) (extraKeys : Bool)
    (fields : OrderedMap Value) : SameEntries keyCase children extraKeys fields fields := by
  have heq : ∀ key value other, fields.get? key = some value → fields.get? key = some other →
      value = other := by
    intro key value other hvalue hother
    exact Option.some.inj (hvalue ▸ hother)
  refine .intro (.refl _) (fun _ => rfl) ?_ fun key value other hvalue hother _ =>
    heq key value other hvalue hother
  intro key value other hvalue hother child _ _
  rw [heq key value other hvalue hother]
  exact .same child other

theorem mem_keys_iff (h : SameEntries keyCase children extraKeys fields others) {key : String} :
    key ∈ fields.keys ↔ key ∈ others.keys := by
  obtain ⟨hperm, -, -, -⟩ := h
  exact hperm.mem_iff

/-- What is under the name of a child is reordered in turn. -/
theorem declared (h : SameEntries keyCase children extraKeys fields others) {key : String}
    {value other : Value} (hvalue : fields.get? key = some value)
    (hother : others.get? key = some other) {child : Element} (hchild : child ∈ children)
    (hnamed : child.isNamed (keyCase.apply key)) : child.Reordered value other := by
  obtain ⟨-, -, hdeclared, -⟩ := h
  exact hdeclared key value other hvalue hother child hchild hnamed

/-- What is under a key on one side has its counterpart under the same key on the other. -/
theorem exists_other (h : SameEntries keyCase children extraKeys fields others) {key : String}
    {value : Value} (hvalue : fields.get? key = some value) :
    ∃ other, others.get? key = some other :=
  OrderedMap.exists_get? (fun _ hkey => h.mem_keys_iff.mp hkey) hvalue

theorem get?_eq_none (h : SameEntries keyCase children extraKeys fields others) {key : String}
    (hnone : fields.get? key = none) : others.get? key = none := by
  rw [OrderedMap.get?_eq_none_iff] at hnone ⊢
  exact fun hkey => hnone (h.mem_keys_iff.mpr hkey)

end SameEntries

namespace Reordered

variable {element : Element} {value other : Value}

/-- A mapping stays one. -/
theorem exists_map {fields : OrderedMap Value} (h : element.Reordered (.map fields) other) :
    ∃ others, other = .map others := by
  cases h with
  | same => exact ⟨_, rfl⟩
  | keyed => exact ⟨_, rfl⟩
  | category => exact ⟨_, rfl⟩
  | lone h => exact ⟨_, rfl⟩

/-- What is no collection is the same. -/
theorem eq_of_scalar (h : element.Reordered value other) (hseq : ∀ items, value ≠ .seq items)
    (hmap : ∀ fields, value ≠ .map fields) : value = other := by
  cases h with
  | same => rfl
  | list => exact absurd rfl (hseq _)
  | keyed => exact absurd rfl (hmap _)
  | category => exact absurd rfl (hmap _)
  | lone h => exact absurd rfl (hmap _)

/-- Entries that change places only are reordered. -/
theorem of_perm {info : Info} {children : List Element} {fields others : OrderedMap Value}
    (hfields : fields.Distinct) (h : fields.entries.Perm others.entries) :
    (Element.keyed info children false).Reordered (.map fields) (.map others) := by
  have hothers : others.Distinct := (h.map Prod.fst).nodup_iff.mp hfields
  have heq : ∀ key value other, fields.get? key = some value → others.get? key = some other →
      value = other := by
    intro key value other hvalue hother
    have hmem := h.mem_iff.mp (OrderedMap.mem_of_lookup hvalue)
    exact Option.some.inj ((OrderedMap.lookup_of_mem hothers hmem).symm.trans hother)
  refine .keyed (.intro (h.map Prod.fst) (by simp) ?_ fun key value other hvalue hother _ =>
    heq key value other hvalue hother)
  intro key value other hvalue hother child _ _
  rw [heq key value other hvalue hother]
  exact .same child other

theorem keyed_iff {info : Info} {children : List Element} {extraKeys : Bool}
    {fields others : OrderedMap Value} :
    (Element.keyed info children extraKeys).Reordered (.map fields) (.map others) ↔
      SameEntries info.keyCase children extraKeys fields others := by
  refine ⟨fun h => ?_, .keyed⟩
  cases h with
  | same => exact .refl ..
  | keyed h => exact h

end Reordered

namespace SameEntries

variable {keyCase : KeyCase} {children : List Element} {extraKeys : Bool}
  {fields others : OrderedMap Value}

/-- The same entries under keys in a case are the same entries. -/
theorem of_foldKeys {info : Info} {path : String} {raw raws fields : OrderedMap Value}
    (hraw : raw.Distinct) (hraws : raws.Distinct)
    (h : SameEntries info.keyCase children extraKeys raw raws)
    (hfields : info.foldKeys path raw = .ok fields) :
    ∃ others, info.foldKeys path raws = .ok others ∧
      SameEntries .mixed children extraKeys fields others := by
  obtain ⟨hrawPerm, horder, hdeclared, hundeclared⟩ := h
  obtain ⟨hnodup, rfl⟩ := (Info.foldKeys_eq_ok_iff hraw).mp hfields
  have hperm : (raw.keys.map info.keyCase.apply).Perm (raws.keys.map info.keyCase.apply) :=
    hrawPerm.map _
  have hkeys : ∀ m : OrderedMap Value,
      OrderedMap.keys (⟨m.entries.map (Prod.map info.keyCase.apply id)⟩ : OrderedMap Value) =
        m.keys.map info.keyCase.apply := by
    intro m
    simp [OrderedMap.keys]
  -- no two keys become one, so what is found under a folded key stood under the same raw key
  have hunfold : ∀ key value other,
      OrderedMap.get? (⟨raw.entries.map (Prod.map info.keyCase.apply id)⟩ : OrderedMap Value)
        key = some value →
      OrderedMap.get? (⟨raws.entries.map (Prod.map info.keyCase.apply id)⟩ : OrderedMap Value)
        key = some other →
      ∃ rawKey, info.keyCase.apply rawKey = key ∧ raw.get? rawKey = some value ∧
        raws.get? rawKey = some other := by
    intro key value other hvalue hother
    obtain ⟨⟨a, x⟩, ha, hax⟩ := List.mem_map.mp (OrderedMap.mem_of_lookup hvalue)
    obtain ⟨⟨b, y⟩, hb, hby⟩ := List.mem_map.mp (OrderedMap.mem_of_lookup hother)
    obtain ⟨rfl, rfl⟩ := Prod.mk.inj hax
    obtain ⟨hkey, rfl⟩ := Prod.mk.inj hby
    have hmem : b ∈ raw.keys := hrawPerm.mem_iff.mpr (List.mem_map_of_mem hb)
    obtain rfl : b = a := List.inj_on_of_nodup_map hnodup hmem (List.mem_map_of_mem ha) hkey
    exact ⟨b, rfl, OrderedMap.lookup_of_mem hraw ha, OrderedMap.lookup_of_mem hraws hb⟩
  refine ⟨_, (Info.foldKeys_eq_ok_iff hraws).mpr ⟨hperm.nodup_iff.mp hnodup, rfl⟩,
    ?_, ?_, ?_, ?_⟩
  · rwa [hkeys, hkeys]
  · intro hextra
    rw [hkeys, hkeys, horder hextra]
  · intro key value other hvalue hother child hchild hnamed
    obtain ⟨rawKey, rfl, hraw, hraws⟩ := hunfold key value other hvalue hother
    exact hdeclared rawKey value other hraw hraws child hchild hnamed
  · intro key value other hvalue hother hnone
    obtain ⟨rawKey, rfl, hraw, hraws⟩ := hunfold key value other hvalue hother
    exact hundeclared rawKey value other hraw hraws hnone

/-- The same entries on top of the same entries are the same entries. -/
theorem insertMany {bases : OrderedMap Value} {base : OrderedMap Value}
    (hfields : fields.Distinct) (hothers : others.Distinct)
    (hbase : SameEntries keyCase children extraKeys base bases)
    (h : SameEntries keyCase children extraKeys fields others) :
    SameEntries keyCase children extraKeys (base.insertMany fields.entries)
      (bases.insertMany others.entries) := by
  have hcontains : ∀ key, base.contains key = bases.contains key := by
    intro key
    rw [Bool.eq_iff_iff, OrderedMap.contains_iff, OrderedMap.contains_iff]
    exact hbase.mem_keys_iff
  -- what is found comes from the upper mappings, or else from the lower ones
  have hsource : ∀ key value other,
      (base.insertMany fields.entries).get? key = some value →
      (bases.insertMany others.entries).get? key = some other →
      fields.get? key = some value ∧ others.get? key = some other ∨
        base.get? key = some value ∧ bases.get? key = some other := by
    intro key value other hvalue hother
    rw [OrderedMap.get?_insertMany base hfields] at hvalue
    rw [OrderedMap.get?_insertMany bases hothers] at hother
    cases hget : fields.get? key with
    | some upper =>
      obtain ⟨upper', hget'⟩ := h.exists_other hget
      rw [hget, Option.some_or] at hvalue
      rw [hget', Option.some_or] at hother
      exact .inl ⟨hvalue, hget'.trans hother⟩
    | none =>
      rw [hget, Option.none_or] at hvalue
      rw [h.get?_eq_none hget, Option.none_or] at hother
      exact .inr ⟨hvalue, hother⟩
  obtain ⟨hpermBase, horderBase, hdeclaredBase, hundeclaredBase⟩ := hbase
  obtain ⟨hperm, horder, hdeclared, hundeclared⟩ := h
  refine ⟨?_, fun hextra => ?_, ?_, ?_⟩
  · rw [OrderedMap.keys_insertMany base hfields, OrderedMap.keys_insertMany bases hothers]
    simp only [hcontains]
    exact hpermBase.append (hperm.filter _)
  · rw [OrderedMap.keys_insertMany base hfields, OrderedMap.keys_insertMany bases hothers,
      horderBase hextra, horder hextra]
    simp only [hcontains]
  · intro key value other hvalue hother
    rcases hsource key value other hvalue hother with ⟨hv, ho⟩ | ⟨hv, ho⟩
    · exact hdeclared key value other hv ho
    · exact hdeclaredBase key value other hv ho
  · intro key value other hvalue hother
    rcases hsource key value other hvalue hother with ⟨hv, ho⟩ | ⟨hv, ho⟩
    · exact hundeclared key value other hv ho
    · exact hundeclaredBase key value other hv ho

/-- The undeclared entries are the same, in the same order. -/
theorem undeclaredEntries {path : String} {extras : List (String × Value)}
    (hfields : fields.Distinct) (h : SameEntries .mixed children extraKeys fields others)
    (hextras : ConfigSchema.undeclaredEntries children extraKeys path fields.entries =
      .ok extras) :
    ConfigSchema.undeclaredEntries children extraKeys path others.entries = .ok extras := by
  obtain ⟨hperm, horder, -, hundeclared⟩ := h
  rw [undeclaredEntries_eq_ok] at hextras ⊢
  obtain ⟨rfl, hallowed⟩ := hextras
  refine ⟨?_, hallowed⟩
  rcases hallowed with hextra | hnone
  · have hentries := OrderedMap.forall₂_entries hfields (horder hextra)
    refine Outcome.filter_eq_of_forall₂ (hentries.imp fun a b hab => ?_)
    obtain ⟨hkey, hvalue, hother⟩ := hab
    refine ⟨by rw [hkey], fun hnone => Prod.ext hkey ?_⟩
    exact hundeclared a.1 a.2 b.2 hvalue hother (by simpa [KeyCase.apply] using hnone)
  · rw [hnone, eq_comm, List.filter_eq_nil_iff]
    intro entry hentry
    obtain ⟨value, hvalue⟩ := List.mem_map.mp
      (hperm.mem_iff.mpr (List.mem_map_of_mem (f := Prod.fst) hentry))
    rw [← hvalue.2]
    exact List.filter_eq_nil_iff.mp hnone value hvalue.1

end SameEntries

/-! ## Validation -/

/-- Validation gives for the other value what it gives for the first, if this is a document. -/
def Follows (element : Element) (value other : Value) : Prop :=
  ∀ mode path document, element.validateAt mode path value = .ok document →
    element.validateAt mode path other = .ok document

variable {info : Info} {mode : Mode} {path : String}

theorem validateChildren_of_follows {children : List Element} {fields others : OrderedMap Value}
    {entries : List (String × Value)}
    (h : ∀ child ∈ children, child.isDerived = false →
      child.Follows ((fields.get? child.key).getD .null) ((others.get? child.key).getD .null))
    (hentries : validateChildren children mode path fields = .ok entries) :
    validateChildren children mode path others = .ok entries := by
  induction children generalizing entries with
  | nil => exact hentries
  | cons child rest ih =>
    obtain ⟨valid, more, hvalid, hmore, rfl⟩ := validateChildren_cons_eq_ok.mp hentries
    refine validateChildren_cons_eq_ok.mpr ⟨valid, more, ?_,
      ih (fun other hother => h other (List.mem_cons_of_mem _ hother)) hmore, rfl⟩
    split at hvalid
    · rename_i hderived
      rwa [if_pos hderived]
    · rename_i hderived
      rw [if_neg hderived]
      exact h child List.mem_cons_self (by simpa using hderived) mode _ valid hvalid

/-- A section is validated by what is under the names of its children. -/
theorem follows_keyed {children : List Element} {extraKeys : Bool}
    (hc : (keyed info children extraKeys).Checked)
    (ih : ∀ child ∈ children, ∀ value other, value.Proper → other.Proper →
      child.Reordered value other → child.Follows value other)
    {raw raws : OrderedMap Value} (hraw : (Value.map raw).Proper) (hraws : (Value.map raws).Proper)
    (h : (keyed info children extraKeys).Reordered (.map raw) (.map raws)) :
    (keyed info children extraKeys).Follows (.map raw) (.map raws) := by
  intro mode path document hdocument
  rw [validateAt_keyed (.inr (by simp))] at hdocument ⊢
  obtain ⟨fields, hfields, hdocument⟩ := Outcome.bind_eq_ok.mp hdocument
  obtain ⟨extras, hextras, hdocument⟩ := Outcome.bind_eq_ok.mp hdocument
  obtain ⟨entries, hentries, hdocument⟩ := Outcome.bind_eq_ok.mp hdocument
  obtain ⟨others, hothers, hsame⟩ :=
    (Reordered.keyed_iff.mp h).of_foldKeys hraw.self hraws.self hfields
  obtain ⟨hdistinct, -, hproper⟩ := proper_of_foldKeys hraw hfields
  obtain ⟨-, -, hproper'⟩ := proper_of_foldKeys hraws hothers
  have hread : info.sectionFields path (.map raws) = .ok others := hothers
  have hchildren : validateChildren children mode path others = .ok entries := by
    refine validateChildren_of_follows (fun child hchild _ => ?_) hentries
    cases hvalue : fields.get? child.key with
    | none =>
      rw [hsame.get?_eq_none hvalue]
      exact fun _ _ _ h => h
    | some value =>
      obtain ⟨other, hother⟩ := hsame.exists_other hvalue
      rw [hother]
      have hnamed : child.isNamed (KeyCase.mixed.apply child.key) := by
        rw [isNamed, (hc.child hchild).1]
        exact beq_self_eq_true _
      exact ih child hchild value other
        (hproper (child.key, value) (OrderedMap.mem_of_lookup hvalue))
        (hproper' (child.key, other) (OrderedMap.mem_of_lookup hother))
        (hsame.declared hvalue hother hchild hnamed)
  rw [hread, Outcome.ok_bind, hsame.undeclaredEntries hdistinct hextras, Outcome.ok_bind, hchildren,
    Outcome.ok_bind]
  exact hdocument

/-! ## Categories -/

/-- Entries under the same keys, whose values differ in their order at most. -/
def EntriesReordered (item : Element) (fields others : OrderedMap Value) : Prop :=
  List.Forall₂ (fun a b => a.1 = b.1 ∧ item.Reordered a.2 b.2) fields.entries others.entries

namespace EntriesReordered

variable {item : Element} {fields others : OrderedMap Value}

theorem erase (h : item.EntriesReordered fields others) (key : String) :
    item.EntriesReordered (fields.erase key) (others.erase key) :=
  OrderedMap.Related.erase (R := fun _ => item.Reordered) h key

/-- The entries of reordered categories, their keys brought into a case. -/
theorem of_reordered {minEntries : Nat} {defaultKey? : Option String}
    {raw raws : OrderedMap Value} (hraw : raw.Distinct) (hraws : raws.Distinct)
    (h : (category info item minEntries defaultKey?).Reordered (.map raw) (.map raws))
    (hfields : info.foldKeys path raw = .ok fields) :
    ∃ others, info.foldKeys path raws = .ok others ∧ item.EntriesReordered fields others := by
  have hentries : raw.keys = raws.keys ∧ item.EntriesReordered raw raws := by
    cases h with
    | same => exact ⟨rfl, List.forall₂_same.mpr fun entry _ => ⟨rfl, .same item entry.2⟩⟩
    | category hkeys hentries =>
      exact ⟨hkeys, (OrderedMap.forall₂_entries hraw hkeys).imp fun a b ⟨hkey, hvalue, hother⟩ =>
        ⟨hkey, hentries a.1 a.2 b.2 hvalue hother⟩⟩
  obtain ⟨hnodup, rfl⟩ := (Info.foldKeys_eq_ok_iff hraw).mp hfields
  refine ⟨_, (Info.foldKeys_eq_ok_iff hraws).mpr ⟨hentries.1 ▸ hnodup, rfl⟩, ?_⟩
  refine List.forall₂_map_left_iff.mpr (List.forall₂_map_right_iff.mpr (hentries.2.imp ?_))
  exact fun a b hab => ⟨congrArg info.keyCase.apply hab.1, hab.2⟩

end EntriesReordered

/-- Entries on top of shared defaults are reordered if both are. -/
theorem Reordered.withShared {item : Element} {shared? sharedOther? : Option (OrderedMap Value)}
    (hkeyed : ∀ shared, shared? = some shared → item.isKeyed)
    (hshared : Option.Rel (fun shared other => item.Reordered (.map shared) (.map other))
      shared? sharedOther?)
    {value other : Value} (hvalue : value.Proper) (hother : other.Proper)
    (h : item.Reordered value other) :
    item.Reordered (withShared shared? value) (withShared sharedOther? other) := by
  cases hshared with
  | none => exact h
  | @some shared sharedOther hshared =>
    cases item with
    | keyed info children extraKeys =>
      cases value with
      | map fields =>
        obtain ⟨others, rfl⟩ := h.exists_map
        rw [keyed_iff] at h hshared
        exact .keyed (hshared.insertMany hvalue.self hother.self h)
      | null =>
        rw [← h.eq_of_scalar (by simp) (by simp)]
        exact hshared
      | seq items =>
        cases h with
        | same => exact .same _ _
      | _ =>
        rw [← h.eq_of_scalar (by simp) (by simp)]
        exact .same _ _
    | _ => cases hkeyed shared rfl

/-- The shared defaults and the other entries are found in reordered categories alike. -/
theorem exists_takeShared {item : Element} {defaultKey? : Option String}
    {fields others rest : OrderedMap Value} {shared? : Option (OrderedMap Value)}
    (ih : ∀ value other, value.Proper → other.Proper → item.Reordered value other →
      item.Follows value other)
    (hproper : ∀ entry ∈ fields.entries, entry.2.Proper)
    (hproper' : ∀ entry ∈ others.entries, entry.2.Proper)
    (h : item.EntriesReordered fields others)
    (hshared : takeShared (fun path value => item.validateAt .layer path value) path defaultKey?
      fields = .ok (shared?, rest)) :
    ∃ sharedOther? rest', takeShared (fun path value => item.validateAt .layer path value) path
        defaultKey? others = .ok (sharedOther?, rest') ∧
      item.EntriesReordered rest rest' ∧
      Option.Rel (fun shared other => item.Reordered (.map shared) (.map other))
        shared? sharedOther? := by
  cases defaultKey? with
  | none =>
    obtain ⟨rfl, rfl⟩ := Prod.mk.inj (Except.ok.inj hshared)
    exact ⟨none, others, rfl, h, .none⟩
  | some key =>
    have hrelated : fields.Related (fun _ => item.Reordered) others := h
    obtain ⟨rfl, ⟨rfl, hnull⟩ | ⟨shared, layer, rfl, hget, hlayer⟩⟩ :=
      takeShared_eq_ok_iff.mp hshared
    · have hnull' : (others.get? key).getD .null = .null := by
        cases hvalue : fields.get? key with
        | none => rw [hrelated.get?_eq_none hvalue, Option.getD_none]
        | some value =>
          obtain ⟨other, hother, hreordered⟩ := hrelated.exists_of_get? hvalue
          rw [hvalue] at hnull
          obtain rfl : value = .null := hnull
          rw [hother, Option.getD_some, ← hreordered.eq_of_scalar (by simp) (by simp)]
      exact ⟨none, _, takeShared_eq_ok_iff.mpr ⟨rfl, .inl ⟨rfl, hnull'⟩⟩, h.erase key, .none⟩
    · obtain ⟨other, hother, hreordered⟩ := hrelated.exists_of_get? hget
      obtain ⟨sharedOther, rfl⟩ := hreordered.exists_map
      have hfollows := ih _ _ (hproper (key, _) (OrderedMap.mem_of_lookup hget))
        (hproper' (key, _) (OrderedMap.mem_of_lookup hother)) hreordered .layer _ layer hlayer
      exact ⟨some sharedOther, _, takeShared_eq_ok_iff.mpr
        ⟨rfl, .inr ⟨sharedOther, layer, rfl, hother, hfollows⟩⟩, h.erase key, .some hreordered⟩

theorem follows_category {item : Element} {minEntries : Nat} {defaultKey? : Option String}
    (hc : (category info item minEntries defaultKey?).Checked)
    (ih : ∀ value other, value.Proper → other.Proper → item.Reordered value other →
      item.Follows value other)
    {raw raws : OrderedMap Value} (hraw : (Value.map raw).Proper) (hraws : (Value.map raws).Proper)
    (h : (category info item minEntries defaultKey?).Reordered (.map raw) (.map raws)) :
    (category info item minEntries defaultKey?).Follows (.map raw) (.map raws) := by
  intro mode path document hdocument
  rw [validateAt_category (.inr (by simp))] at hdocument ⊢
  obtain ⟨fields, hfields, hdocument⟩ := Outcome.bind_eq_ok.mp hdocument
  obtain ⟨⟨shared?, rest⟩, hshared, hdocument⟩ := Outcome.bind_eq_ok.mp hdocument
  obtain ⟨entries, hentries, hdocument⟩ := Outcome.bind_eq_ok.mp hdocument
  obtain ⟨others, hothers, hreordered⟩ :=
    EntriesReordered.of_reordered hraw.self hraws.self h hfields
  obtain ⟨hdistinct, -, hproper⟩ := proper_of_foldKeys hraw hfields
  obtain ⟨hdistinct', -, hproper'⟩ := proper_of_foldKeys hraws hothers
  obtain ⟨sharedOther?, rest', hshared', hrest, hrel⟩ :=
    exists_takeShared ih hproper hproper' hreordered hshared
  have hkeyed : ∀ shared, shared? = some shared → item.isKeyed := by
    rintro shared rfl
    exact hc.isKeyed_of_takeShared hshared
  obtain ⟨hsublist, -, -⟩ := takeShared_eq_ok hdistinct hshared
  obtain ⟨hsublist', -, -⟩ := takeShared_eq_ok hdistinct' hshared'
  have hloop : rest'.entries.foldlM (addEntry info item mode path sharedOther?)
      (startEntries info mode) = .ok entries := by
    refine Outcome.foldlM_eq_ok_of_forall₂ (Outcome.forall₂_imp_mem hrest ?_) hentries
    rintro ⟨key, value⟩ hentry ⟨key', other⟩ hentry' ⟨rfl, hvalue⟩ out result hstep
    obtain ⟨⟨⟩, hkey, hstep⟩ := Outcome.bind_eq_ok.mp hstep
    obtain ⟨valid, hvalid, hstep⟩ := Outcome.bind_eq_ok.mp hstep
    have hvalueProper := hproper _ (hsublist.subset hentry)
    have hotherProper := hproper' _ (hsublist'.subset hentry')
    have hfollows : item.Follows (withShared shared? value) (withShared sharedOther? other) :=
      ih _ _ (proper_of_takeShared hdistinct hproper hshared hentry)
        (proper_of_takeShared hdistinct' hproper' hshared' hentry')
        (hvalue.withShared hkeyed hrel hvalueProper hotherProper)
    refine Outcome.bind_eq_ok.mpr ⟨(), hkey, ?_⟩
    exact Outcome.bind_eq_ok.mpr ⟨valid, hfollows mode _ valid hvalid, hstep⟩
  have hread : info.categoryFields path (.map raws) = .ok others := hothers
  rw [hread, Outcome.ok_bind, hshared', Outcome.ok_bind, hloop, Outcome.ok_bind]
  exact hdocument

/-! ## Lists -/

/-- Reordered lists have reordered items. -/
theorem exists_listItems {item : Element} {minLength? maxLength? : Option Nat}
    {value other : Value} {items : List Value} (hnull : value ≠ .null)
    (h : (list info item minLength? maxLength?).Reordered value other)
    (hitems : info.listItems item path value = .ok items) :
    ∃ others, info.listItems item path other = .ok others ∧
      List.Forall₂ item.Reordered items others := by
  cases h with
  | same => exact ⟨items, hitems, List.forall₂_same.mpr fun value _ => .same item value⟩
  | @list _ _ _ _ raws others hlength hreordered =>
    obtain rfl := Except.ok.inj hitems
    refine ⟨others, rfl, List.forall₂_iff_get.mpr ⟨hlength, fun i hi hj => ?_⟩⟩
    exact hreordered i _ _ (List.getElem?_eq_getElem hi) (List.getElem?_eq_getElem hj)
  | lone h =>
    simp only [Info.listItems] at hitems ⊢
    split at hitems
    · cases hitems
    · rename_i hlist
      obtain rfl := Except.ok.inj hitems
      rw [if_neg hlist]
      exact ⟨_, rfl, .cons h .nil⟩

theorem follows_list {item : Element} {minLength? maxLength? : Option Nat}
    (ih : ∀ value other, value.Proper → other.Proper → item.Reordered value other →
      item.Follows value other)
    {value other : Value} (hvalue : value.Proper) (hother : other.Proper) (hnull : value ≠ .null)
    (hnull' : other ≠ .null)
    (h : (list info item minLength? maxLength?).Reordered value other) :
    (list info item minLength? maxLength?).Follows value other := by
  intro mode path document hdocument
  rw [validateAt_list (.inr hnull)] at hdocument
  rw [validateAt_list (.inr hnull')]
  obtain ⟨items, hitems, hdocument⟩ := Outcome.bind_eq_ok.mp hdocument
  obtain ⟨⟨⟩, hlength, hdocument⟩ := Outcome.bind_eq_ok.mp hdocument
  obtain ⟨valid, hvalid, hdocument⟩ := Outcome.bind_eq_ok.mp hdocument
  obtain ⟨others, hothers, hreordered⟩ := exists_listItems hnull h hitems
  have hproper := proper_of_listItems hvalue (fun heq => absurd heq hnull) hitems
  have hproper' := proper_of_listItems hother (fun heq => absurd heq hnull') hothers
  have hfollows := Outcome.forall₂_imp_mem hreordered fun value hvalue other hother h =>
    ih value other (hproper value hvalue) (hproper' other hother) h
  have hitem := Outcome.mapM_zipIdx_eq_ok_of_forall₂
    (hfollows.imp fun _ _ h index valid => h mode (Path.join path (toString index)) valid) hvalid
  rw [hothers, Outcome.ok_bind, ← hreordered.length_eq, hlength, Outcome.ok_bind, hitem,
    Outcome.ok_bind]
  exact hdocument

/-! ## The whole -/

/-- Reordered values are validated to the same document. -/
theorem follows_of_reordered {element : Element} (hc : element.Checked) {value other : Value}
    (hvalue : value.Proper) (hother : other.Proper) (h : element.Reordered value other) :
    element.Follows value other := by
  -- entries on top of shared defaults are no parts of the value, so the induction is on the element
  induction element using Element.induction generalizing value other with
  | keyed info children extraKeys ih =>
    cases value with
    | map fields =>
      obtain ⟨others, rfl⟩ := h.exists_map
      exact follows_keyed hc (fun child hchild value other hvalue hother h =>
        ih child hchild (hc.child hchild).2.2 hvalue hother h) hvalue hother h
    | seq items =>
      cases h with
      | same => exact fun _ _ _ h => h
    | _ =>
      rw [← h.eq_of_scalar (by simp) (by simp)]
      exact fun _ _ _ h => h
  | category info item minEntries defaultKey? ih =>
    cases value with
    | map fields =>
      obtain ⟨others, rfl⟩ := h.exists_map
      exact follows_category hc (fun value other hvalue hother h => ih hc.entry hvalue hother h)
        hvalue hother h
    | seq items =>
      cases h with
      | same => exact fun _ _ _ h => h
    | _ =>
      rw [← h.eq_of_scalar (by simp) (by simp)]
      exact fun _ _ _ h => h
  | list info item minLength? maxLength? ih =>
    rcases eq_or_ne value .null with rfl | hnull
    · rw [← h.eq_of_scalar (by simp) (by simp)]
      exact fun _ _ _ h => h
    · refine follows_list (fun value other hvalue hother h => ih hc.item hvalue hother h) hvalue
        hother hnull ?_ h
      rintro rfl
      exact hnull (h.symm.eq_of_scalar (by simp) (by simp)).symm
  | _ =>
    cases h with
    | same => exact fun _ _ _ h => h

/-- The order in which the entries of sections are written does not matter. -/
theorem validate_reordered {schema : Element} (hcheck : schema.check = .ok ())
    {value other : Value} (hvalue : value.Proper) (hother : other.Proper)
    (h : schema.Reordered value other) (mode : Mode) (document : Value) :
    schema.validate mode value = .ok document ↔ schema.validate mode other = .ok document := by
  have hc : schema.Checked := ⟨"", false, hcheck⟩
  have hstep : ∀ {value other}, schema.Follows value other →
      schema.validate mode value = .ok document → schema.validate mode other = .ok document := by
    intro value other hfollows hdocument
    obtain ⟨valid, hvalid, hfinish⟩ := Outcome.bind_eq_ok.mp hdocument
    exact Outcome.bind_eq_ok.mpr ⟨valid, hfollows mode "" valid hvalid, hfinish⟩
  exact ⟨hstep (follows_of_reordered hc hvalue hother h),
    hstep (follows_of_reordered hc hother hvalue h.symm)⟩

/-- The raw fleet, written in another order. -/
def fleetShuffled : Value := .map ⟨[
  ("notes", .str "one\ntwo"),
  ("garages", .map ⟨[
    ("_", .map ⟨[("spaces", .int 2)]⟩),
    ("north", .map ⟨[("city", .str "Oslo")]⟩)]⟩),
  ("cars", .seq [.map ⟨[("make", .str "Fiat"), ("color", .str "red")]⟩])]⟩

theorem proper_fleetShuffled : fleetShuffled.Proper := by
  simp [fleetShuffled, Value.Proper.of_scalar, OrderedMap.Distinct, OrderedMap.keys]

theorem reordered_fleetShuffled : Samples.fleet.Reordered fleetShuffled fleetRaw := by
  have hcar : Samples.car.Reordered
      (.map ⟨[("make", .str "Fiat"), ("color", .str "red")]⟩)
      (.map ⟨[("color", .str "red"), ("make", .str "Fiat")]⟩) :=
    .of_perm (by simp [OrderedMap.Distinct, OrderedMap.keys]) (.swap _ _ _)
  refine .keyed (.intro (by decide) (by simp) ?_ ?_)
  · intro key value other hvalue hother child hchild hnamed
    replace hvalue := OrderedMap.mem_of_lookup hvalue
    simp only [List.mem_cons, Prod.mk.injEq, List.not_mem_nil, or_false] at hvalue
    rcases hvalue with ⟨rfl, rfl⟩ | ⟨rfl, rfl⟩ | ⟨rfl, rfl⟩
    · obtain rfl := Option.some.inj hother
      exact .same child _
    · obtain rfl := Option.some.inj hother
      exact .same child _
    · obtain rfl := Option.some.inj hother
      simp only [List.mem_cons, List.not_mem_nil, or_false] at hchild
      rcases hchild with rfl | rfl | rfl | rfl
      · exact .list rfl fun i value other hvalue hother => by
          cases i with
          | zero =>
            obtain rfl := Option.some.inj hvalue
            obtain rfl := Option.some.inj hother
            exact hcar
          | succ i => cases hvalue
      · cases hnamed
      · cases hnamed
      · cases hnamed
  · intro key value other hvalue hother hnone
    replace hvalue := OrderedMap.mem_of_lookup hvalue
    simp only [List.mem_cons, Prod.mk.injEq, List.not_mem_nil, or_false] at hvalue
    rcases hvalue with ⟨rfl, rfl⟩ | ⟨rfl, rfl⟩ | ⟨rfl, rfl⟩ <;> cases hnone

/-- The fleet is the same in either order. -/
theorem validate_reordered_fleet : Samples.fleet.validate .full fleetShuffled = .ok fleetDocument :=
  (validate_reordered rfl proper_fleetShuffled proper_fleetRaw reordered_fleetShuffled .full
    fleetDocument).mpr rfl

end Element

end ConfigSchema
