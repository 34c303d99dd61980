import ConfigSchema.Proofs.Element.Layer
import ConfigSchema.Proofs.OrderedMap.Merge

/-!
# Null and nothing

An entry that is null stands for one that is not there: validation does not tell whether a null
under the name of a child is given or left out. The one exception is an entry of a category on top
of the shared defaults. There a null takes the place of what the defaults give for the same key, and
so it counts as given.

## Main definitions

- `SharedGives` — the shared defaults of a category give something for a key of an entry
- `Element.Omits` — a raw value without some of the nulls of another
- `Element.EntryOmits` — what is under the name of one child, which may be such a null

## Main statements

- `Element.readsAlike_of_omits` — validation does not tell the two apart
- `Element.validate_omits` — so neither do documents and layers
-/

namespace ConfigSchema

/-- The shared defaults of a category give something for a key `name` of the entry under `key`. They
are no defaults for themselves. -/
def SharedGives (defaultKey? : Option String) (fields : OrderedMap Value) (key name : String) :
    Prop :=
  ∃ default shared value, defaultKey? = some default ∧ key ≠ default ∧
    fields.get? default = some (.map shared) ∧ shared.get? name = some value ∧ value ≠ .null

namespace Element

mutual

/-- The second raw value is the first one without some of the null entries under the names of
children. If the value is a section, those under the keys that are `kept` are still there. -/
inductive Omits : Element → (kept : String → Prop) → Value → Value → Prop
  | same (element : Element) (kept : String → Prop) (value : Value) :
      Omits element kept value value
  /-- A section lacks nulls under names of children, and may lack more inside the others. The
  undeclared entries are the same, in the same order. -/
  | keyed {info : Info} {children : List Element} {extraKeys : Bool} {kept : String → Prop}
      {fields others : OrderedMap Value}
      (hextras : fields.entries.filter (fun entry => !children.any (·.isNamed entry.1)) =
        others.entries.filter fun entry => !children.any (·.isNamed entry.1))
      (hentries : ∀ child ∈ children, EntryOmits child (kept child.key) (fields.get? child.key)
        (others.get? child.key)) :
      Omits (.keyed info children extraKeys) kept (.map fields) (.map others)
  /-- The entries of a category keep the nulls that stand in place of shared defaults. -/
  | category {info : Info} {item : Element} {minEntries : Nat} {defaultKey? : Option String}
      {kept : String → Prop} {fields others : OrderedMap Value} (hkeys : fields.keys = others.keys)
      (hentries : ∀ key value other, fields.get? key = some value →
        others.get? key = some other →
          Omits item (SharedGives defaultKey? fields key) value other) :
      Omits (.category info item minEntries defaultKey?) kept (.map fields) (.map others)
  | list {info : Info} {item : Element} {minLength? maxLength? : Option Nat}
      {kept : String → Prop} {items others : List Value} (hlength : items.length = others.length)
      (hitems : ∀ (i : Nat) value other, items[i]? = some value → others[i]? = some other →
        Omits item (fun _ => False) value other) :
      Omits (.list info item minLength? maxLength?) kept (.seq items) (.seq others)
  /-- A lone section stands for a list of one item. -/
  | lone {info : Info} {item : Element} {minLength? maxLength? : Option Nat}
      {kept : String → Prop} {fields others : OrderedMap Value}
      (h : Omits item (fun _ => False) (.map fields) (.map others)) :
      Omits (.list info item minLength? maxLength?) kept (.map fields) (.map others)

/-- What is under the name of a child, and what is there without some of the nulls: a null is left
out only where it need not be kept. -/
inductive EntryOmits : Element → (keep : Prop) → Option Value → Option Value → Prop
  | absent (child : Element) (keep : Prop) : EntryOmits child keep none none
  | omitted (child : Element) {keep : Prop} (h : ¬keep) : EntryOmits child keep (some .null) none
  | given {child : Element} (keep : Prop) {value other : Value}
      (h : Omits child (fun _ => False) value other) :
      EntryOmits child keep (some value) (some other)

end

/-- Nothing inside a value is kept for its own sake. -/
abbrev OmitsInside (element : Element) (value other : Value) : Prop :=
  element.Omits (fun _ => False) value other

namespace EntryOmits

variable {child : Element} {keep keepBase : Prop} {value? other? base? baseOther? : Option Value}

theorem refl (child : Element) (keep : Prop) (value? : Option Value) :
    EntryOmits child keep value? value? := by
  cases value? with
  | none => exact .absent child keep
  | some value => exact .given keep (.same child _ value)

theorem free (h : EntryOmits child keep value? other?) : EntryOmits child False value? other? := by
  cases h with
  | absent => exact .absent child False
  | omitted => exact .omitted child not_false
  | given _ h => exact .given False h

/-- On top of something else a null must be kept, unless this is null as well. -/
theorem or (h : EntryOmits child keep value? other?)
    (hbase : EntryOmits child keepBase base? baseOther?)
    (hkeep : ∀ value ∈ base?, value ≠ .null → keep) :
    EntryOmits child False (value?.or base?) (other?.or baseOther?) := by
  cases h with
  | absent => exact hbase.free
  | given _ h => exact .given False h
  | omitted _ hfree =>
    cases hbase with
    | absent => exact .omitted child not_false
    | omitted => exact .omitted child not_false
    | @given _ _ below other h =>
      obtain rfl : below = .null := by
        by_contra hne
        exact hfree (hkeep below rfl hne)
      exact .given False h

end EntryOmits

namespace Omits

variable {element : Element} {kept : String → Prop} {value other : Value}

/-- A mapping stays one. -/
theorem exists_map {fields : OrderedMap Value} (h : element.Omits kept (.map fields) other) :
    ∃ others, other = .map others := by
  cases h with
  | same => exact ⟨_, rfl⟩
  | keyed => exact ⟨_, rfl⟩
  | category => exact ⟨_, rfl⟩
  | lone => exact ⟨_, rfl⟩

/-- What is no collection is the same. -/
theorem eq_of_scalar (h : element.Omits kept value other) (hseq : ∀ items, value ≠ .seq items)
    (hmap : ∀ fields, value ≠ .map fields) : value = other := by
  cases h with
  | same => rfl
  | list => exact absurd rfl (hseq _)
  | keyed => exact absurd rfl (hmap _)
  | category => exact absurd rfl (hmap _)
  | lone => exact absurd rfl (hmap _)

theorem eq_null (h : element.Omits kept .null other) : other = .null :=
  (h.eq_of_scalar (by simp) (by simp)).symm

theorem keyed_iff {info : Info} {children : List Element} {extraKeys : Bool}
    {fields others : OrderedMap Value} :
    (Element.keyed info children extraKeys).Omits kept (.map fields) (.map others) ↔
      fields.entries.filter (fun entry => !children.any (·.isNamed entry.1)) =
          others.entries.filter (fun entry => !children.any (·.isNamed entry.1)) ∧
        ∀ child ∈ children,
          EntryOmits child (kept child.key) (fields.get? child.key) (others.get? child.key) := by
  refine ⟨fun h => ?_, fun ⟨hextras, hentries⟩ => .keyed hextras hentries⟩
  cases h with
  | same => exact ⟨rfl, fun child _ => .refl child _ _⟩
  | keyed hextras hentries => exact ⟨hextras, hentries⟩

/-- A null under the name of a child is left out. -/
theorem erase {info : Info} {children : List Element} {extraKeys : Bool}
    {fields : OrderedMap Value} (hd : fields.Distinct) (name : String)
    (hdeclared : children.any (·.isNamed name)) (hnull : fields.get? name = some .null)
    (hkept : ¬kept name) :
    (Element.keyed info children extraKeys).Omits kept (.map fields)
      (.map (fields.erase name)) := by
  have hgone : (fields.erase name).get? name = none :=
    (OrderedMap.get?_eq_none_iff _ _).mpr (OrderedMap.not_mem_keys_erase hd name)
  refine .keyed ?_ fun child _ => ?_
  · exact (OrderedMap.filter_erase (fun key => !children.any (·.isNamed key)) fields
      (by simp [hdeclared])).symm
  · by_cases hname : child.key = name
    · rw [hname, hgone, hnull]
      exact .omitted child hkept
    · rw [OrderedMap.get?_erase_of_ne _ hname]
      exact .refl child _ _

end Omits

/-! ## Entries on top of shared defaults -/

/-- Without nulls on top of shared defaults, or in them, less is found, but nothing else. -/
theorem Omits.insertMany {info : Info} {children : List Element} {extraKeys : Bool}
    {kept keptBase : String → Prop} {base bases fields others : OrderedMap Value}
    (hfields : fields.Distinct) (hothers : others.Distinct)
    (hbase : (Element.keyed info children extraKeys).Omits keptBase (.map base) (.map bases))
    (h : (Element.keyed info children extraKeys).Omits kept (.map fields) (.map others))
    (hkept : ∀ name value, base.get? name = some value → value ≠ .null → kept name) :
    (Element.keyed info children extraKeys).OmitsInside (.map (base.insertMany fields.entries))
      (.map (bases.insertMany others.entries)) := by
  obtain ⟨hextrasBase, hentriesBase⟩ := Omits.keyed_iff.mp hbase
  obtain ⟨hextras, hentries⟩ := Omits.keyed_iff.mp h
  refine .keyed ?_ fun child hchild => ?_
  · rw [OrderedMap.filter_insertMany (fun name => !children.any (·.isNamed name)),
      OrderedMap.filter_insertMany (fun name => !children.any (·.isNamed name)), hextrasBase,
      hextras]
  · rw [OrderedMap.get?_insertMany base hfields, OrderedMap.get?_insertMany bases hothers]
    exact (hentries child hchild).or (hentriesBase child hchild) (hkept child.key)

/-- An entry of a category on top of the shared defaults, without nulls that stand in place of
nothing. -/
theorem Omits.withShared {item : Element} {kept keptBase : String → Prop}
    {shared sharedOther : OrderedMap Value} (hkeyed : item.isKeyed)
    (hshared : item.Omits keptBase (.map shared) (.map sharedOther))
    (hkept : ∀ name value, shared.get? name = some value → value ≠ .null → kept name)
    {value other : Value} (hvalue : value.Proper) (hother : other.Proper)
    (h : item.Omits kept value other) :
    item.OmitsInside (ConfigSchema.withShared (some shared) value)
      (ConfigSchema.withShared (some sharedOther) other) := by
  cases item with
  | keyed info children extraKeys =>
    cases value with
    | map fields =>
      obtain ⟨others, rfl⟩ := h.exists_map
      exact hshared.insertMany hvalue.self hother.self h hkept
    | null =>
      obtain rfl := h.eq_null
      obtain ⟨hextras, hentries⟩ := Omits.keyed_iff.mp hshared
      exact .keyed hextras fun child hchild => (hentries child hchild).free
    | seq items =>
      cases h with
      | same => exact .same _ _ _
    | _ =>
      rw [← h.eq_of_scalar (by simp) (by simp)]
      exact .same _ _ _
  | _ => cases hkeyed

/-! ## Validation -/

variable {info : Info} {mode : Mode} {path : String}

/-- Only the undeclared entries are looked at. -/
theorem undeclaredEntries_congr {children : List Element} (extraKeys : Bool)
    {entries others : List (String × Value)}
    (h : entries.filter (fun entry => !children.any (·.isNamed entry.1)) =
      others.filter fun entry => !children.any (·.isNamed entry.1)) :
    undeclaredEntries children extraKeys path entries =
      undeclaredEntries children extraKeys path others := by
  have hfilter : ∀ entries, undeclaredEntries children extraKeys path entries =
      undeclaredEntries children extraKeys path
        (entries.filter fun entry => !children.any (·.isNamed entry.1)) := by
    intro entries
    induction entries with
    | nil => rfl
    | cons entry rest ih =>
      obtain ⟨key, value⟩ := entry
      by_cases hdeclared : children.any (·.isNamed key)
      · rw [List.filter_cons_of_neg (by simp [hdeclared]), undeclaredEntries, if_pos hdeclared, ih]
      · rw [List.filter_cons_of_pos (by simpa using hdeclared), undeclaredEntries,
          if_neg hdeclared, undeclaredEntries, if_neg hdeclared, ih]
  rw [hfilter entries, hfilter others, h]

/-- Null stands for what is not there. -/
theorem EntryOmits.readsAlike_getD {child : Element} {keep : Prop} {value? other? : Option Value}
    (h : EntryOmits child keep value? other?)
    (halike : ∀ value other, value? = some value → other? = some other →
      child.OmitsInside value other → child.ReadsAlike value other) :
    child.ReadsAlike (value?.getD .null) (other?.getD .null) := by
  cases h with
  | absent => exact fun _ _ => rfl
  | omitted => exact fun _ _ => rfl
  | given _ h => exact halike _ _ rfl rfl h

theorem readsAlike_keyed_of_omits {children : List Element} {extraKeys : Bool}
    (hmixed : info.keyCase = .mixed)
    (ih : ∀ child ∈ children, ∀ {kept : String → Prop} {value other}, value.Proper → other.Proper →
      child.Omits kept value other → child.ReadsAlike value other)
    {kept : String → Prop} {fields others : OrderedMap Value} (hfields : (Value.map fields).Proper)
    (hothers : (Value.map others).Proper)
    (h : (keyed info children extraKeys).Omits kept (.map fields) (.map others)) :
    (keyed info children extraKeys).ReadsAlike (.map fields) (.map others) := by
  intro mode path
  obtain ⟨hextras, hentries⟩ := Omits.keyed_iff.mp h
  have hread : ∀ m, info.sectionFields path (.map m) = .ok m := fun m => by
    rw [Info.sectionFields, Info.foldKeys, hmixed]
  have hchildren : validateChildren children mode path fields =
      validateChildren children mode path others := by
    refine validateChildren_congr fun child hchild _ => ?_
    refine (hentries child hchild).readsAlike_getD (fun value other hvalue hother h => ?_) mode _
    exact ih child hchild (hfields.of_field (OrderedMap.mem_of_lookup hvalue) :)
      (hothers.of_field (OrderedMap.mem_of_lookup hother) :) h
  rw [validateAt_keyed (.inr (by simp)), validateAt_keyed (.inr (by simp)), hread, hread,
    Outcome.ok_bind, Outcome.ok_bind, undeclaredEntries_congr extraKeys hextras, hchildren]

/-- The shared defaults are found in both categories alike, with the other entries. -/
theorem takeShared_omits {item : Element} {defaultKey? : Option String}
    {fields others : OrderedMap Value}
    (ih : ∀ {kept : String → Prop} {value other}, value.Proper → other.Proper →
      item.Omits kept value other → item.ReadsAlike value other)
    (hfields : (Value.map fields).Proper) (hothers : (Value.map others).Proper)
    (h : fields.Related (fun key => item.Omits (SharedGives defaultKey? fields key)) others) :
    (∃ failure,
      takeShared (fun path value => item.validateAt .layer path value) path defaultKey? fields =
        .error failure ∧
      takeShared (fun path value => item.validateAt .layer path value) path defaultKey? others =
        .error failure) ∨
    ∃ shared? rest sharedOther? restOther,
      takeShared (fun path value => item.validateAt .layer path value) path defaultKey? fields =
        .ok (shared?, rest) ∧
      takeShared (fun path value => item.validateAt .layer path value) path defaultKey? others =
        .ok (sharedOther?, restOther) ∧
      rest.Related (fun key => item.Omits (SharedGives defaultKey? fields key)) restOther ∧
      Option.Rel (fun shared other => ∃ kept name, item.Omits kept (.map shared) (.map other) ∧
        defaultKey? = some name ∧ fields.get? name = some (.map shared)) shared? sharedOther? := by
  cases defaultKey? with
  | none => exact .inr ⟨none, fields, none, others, rfl, rfl, h, .none⟩
  | some name =>
    have herase := h.erase name
    simp only [takeShared]
    cases hvalue : fields.get? name with
    | none =>
      rw [h.get?_eq_none hvalue]
      exact .inr ⟨none, _, none, _, rfl, rfl, herase, .none⟩
    | some value =>
      obtain ⟨other, hother, homits⟩ := h.exists_of_get? hvalue
      rw [hother]
      cases value with
      | null =>
        obtain rfl := homits.eq_null
        exact .inr ⟨none, _, none, _, rfl, rfl, herase, .none⟩
      | map shared =>
        obtain ⟨sharedOther, rfl⟩ := homits.exists_map
        have halike := ih (hfields.of_field (OrderedMap.mem_of_lookup hvalue) :)
          (hothers.of_field (OrderedMap.mem_of_lookup hother) :) homits .layer (Path.join path name)
        dsimp only
        rw [← halike]
        cases item.validateAt .layer (Path.join path name) (.map shared) with
        | error failure => exact .inl ⟨failure, rfl, rfl⟩
        | ok layer =>
          exact .inr ⟨some shared, _, some sharedOther, _, rfl, rfl, herase,
            .some ⟨_, name, homits, rfl, hvalue⟩⟩
      | seq items =>
        cases homits with
        | same => exact .inl ⟨_, rfl, rfl⟩
        | list => exact .inl ⟨_, rfl, rfl⟩
      | _ =>
        obtain rfl := homits.eq_of_scalar (by simp) (by simp)
        exact .inl ⟨_, rfl, rfl⟩

/-- An entry on top of the shared defaults, if there are any. -/
theorem Omits.exists_withShared {item : Element} {defaultKey? : Option String}
    {fields : OrderedMap Value} {shared? sharedOther? : Option (OrderedMap Value)} {key : String}
    (hkeyed : ∀ shared, shared? = some shared → item.isKeyed)
    (hdefaults : Option.Rel (fun shared other => ∃ kept name,
      item.Omits kept (.map shared) (.map other) ∧ defaultKey? = some name ∧
        fields.get? name = some (.map shared)) shared? sharedOther?)
    (hkey : defaultKey? ≠ some key) {value other : Value} (hvalue : value.Proper)
    (hother : other.Proper) (h : item.Omits (SharedGives defaultKey? fields key) value other) :
    ∃ kept, item.Omits kept (ConfigSchema.withShared shared? value)
      (ConfigSchema.withShared sharedOther? other) := by
  cases hdefaults with
  | none => exact ⟨_, h⟩
  | @some shared sharedOther hshared =>
    obtain ⟨keptBase, name, hshared, hname, hget⟩ := hshared
    have hother' : key ≠ name := by
      rintro rfl
      exact hkey hname
    refine ⟨_, hshared.withShared (hkeyed shared rfl) (fun below value hbelow hne => ?_) hvalue
      hother h⟩
    exact ⟨name, shared, value, hname, hother', hget, hbelow, hne⟩

theorem readsAlike_category_of_omits {item : Element} {minEntries : Nat}
    {defaultKey? : Option String} (hc : (category info item minEntries defaultKey?).Checked)
    (hmixed : info.keyCase = .mixed)
    (ih : ∀ {kept : String → Prop} {value other}, value.Proper → other.Proper →
      item.Omits kept value other → item.ReadsAlike value other)
    {kept : String → Prop} {fields others : OrderedMap Value} (hfields : (Value.map fields).Proper)
    (hothers : (Value.map others).Proper)
    (h : (category info item minEntries defaultKey?).Omits kept (.map fields) (.map others)) :
    (category info item minEntries defaultKey?).ReadsAlike (.map fields) (.map others) := by
  intro mode path
  have hread : ∀ m, info.categoryFields path (.map m) = .ok m := fun m => by
    rw [Info.categoryFields, Info.foldKeys, hmixed]
  have hrelated :
      fields.Related (fun key => item.Omits (SharedGives defaultKey? fields key)) others := by
    cases h with
    | same => exact List.forall₂_same.mpr fun entry _ => ⟨rfl, .same item _ entry.2⟩
    | category hkeys hentries =>
      exact (OrderedMap.forall₂_entries hfields.self hkeys).imp fun a b hboth =>
        ⟨hboth.1, hentries a.1 a.2 b.2 hboth.2.1 hboth.2.2⟩
  rw [validateAt_category (.inr (by simp)), validateAt_category (.inr (by simp)), hread, hread,
    Outcome.ok_bind, Outcome.ok_bind]
  rcases takeShared_omits ih hfields hothers hrelated with
    ⟨failure, hfailure, hfailureOther⟩ | ⟨shared?, rest, sharedOther?, restOther, hshared,
      hsharedOther, hrest, hdefaults⟩
  · rw [hfailure, hfailureOther]
  rw [hshared, hsharedOther, Outcome.ok_bind, Outcome.ok_bind]
  obtain ⟨hsublist, hgone, -⟩ := takeShared_eq_ok hfields.self hshared
  obtain ⟨hsublistOther, -, -⟩ := takeShared_eq_ok hothers.self hsharedOther
  have hkeyed : ∀ shared, shared? = some shared → item.isKeyed := by
    rintro shared rfl
    exact hc.isKeyed_of_takeShared hshared
  have hloop : rest.entries.foldlM (addEntry info item mode path shared?) (startEntries info mode) =
      restOther.entries.foldlM (addEntry info item mode path sharedOther?)
        (startEntries info mode) := by
    refine Outcome.foldlM_congr (Outcome.forall₂_imp_mem hrest ?_) _
    rintro ⟨key, value⟩ hentry ⟨key', other⟩ hentryOther ⟨rfl, homits⟩ out
    have hvalue : value.Proper := hfields.of_field (hsublist.subset hentry)
    have hother : other.Proper := hothers.of_field (hsublistOther.subset hentryOther)
    have hkey : defaultKey? ≠ some key := fun heq => hgone key heq (List.mem_map_of_mem hentry)
    obtain ⟨keptEntry, htop⟩ := homits.exists_withShared hkeyed hdefaults hkey hvalue hother
    have halike : item.ReadsAlike (withShared shared? value) (withShared sharedOther? other) :=
      ih (proper_of_takeShared hfields.self (fun _ h => hfields.of_field h) hshared hentry)
        (proper_of_takeShared hothers.self (fun _ h => hothers.of_field h) hsharedOther hentryOther)
        htop
    rw [addEntry, addEntry, halike mode]
  rw [hloop]

theorem readsAlike_list_of_omits {item : Element} {minLength? maxLength? : Option Nat}
    (ih : ∀ {kept : String → Prop} {value other}, value.Proper → other.Proper →
      item.Omits kept value other → item.ReadsAlike value other)
    {kept : String → Prop} {value other : Value} (hvalue : value.Proper) (hother : other.Proper)
    (h : (list info item minLength? maxLength?).Omits kept value other) :
    (list info item minLength? maxLength?).ReadsAlike value other := by
  have hitems : ∀ {items others : List Value} (mode : Mode) (path : String),
      (∀ value ∈ items, value.Proper) → (∀ other ∈ others, other.Proper) →
      List.Forall₂ item.OmitsInside items others → List.Forall₂ (fun value other => ∀ index : Nat,
        item.validateAt mode (Path.join path (toString index)) value =
          item.validateAt mode (Path.join path (toString index)) other) items others := by
    intro items others mode path hvalues hothers homits
    refine Outcome.forall₂_imp_mem homits ?_
    intro value hvalue other hother h index
    exact ih (hvalues value hvalue) (hothers other hother) h mode _
  cases h with
  | same => exact fun _ _ => rfl
  | @list _ _ _ _ _ items others hlength homits =>
    intro mode path
    have hforall : List.Forall₂ item.OmitsInside items others :=
      List.forall₂_iff_get.mpr ⟨hlength, fun i hi hj =>
        homits i _ _ (List.getElem?_eq_getElem hi) (List.getElem?_eq_getElem hj)⟩
    rw [validateAt_list (.inr (by simp)), validateAt_list (.inr (by simp)), Info.listItems,
      Info.listItems, Outcome.ok_bind, Outcome.ok_bind, hlength]
    rw [Outcome.mapM_zipIdx_congr (hitems mode path (fun value hitem => hvalue.of_item hitem)
      (fun other hitem => hother.of_item hitem) hforall)]
  | @lone _ _ _ _ _ fields others homits =>
    intro mode path
    rw [validateAt_list (.inr (by simp)), validateAt_list (.inr (by simp))]
    simp only [Info.listItems]
    by_cases hlist : item.isList
    · rw [if_pos hlist, if_pos hlist]
      rfl
    · rw [if_neg hlist, if_neg hlist, Outcome.ok_bind, Outcome.ok_bind,
        Outcome.mapM_zipIdx_congr (hitems mode path (by simpa using hvalue) (by simpa using hother)
          (.cons homits .nil))]
      rfl

/-- Validation does not tell whether nulls under names of children are given or left out. -/
theorem readsAlike_of_omits {element : Element} (hc : element.Checked)
    (hmixed : element.Everywhere fun part => part.info.keyCase = .mixed) {kept : String → Prop}
    {value other : Value} (hvalue : value.Proper) (hother : other.Proper)
    (h : element.Omits kept value other) : element.ReadsAlike value other := by
  -- entries on top of shared defaults are no parts of the value, so the induction is on the element
  induction element using Element.induction generalizing kept value other with
  | keyed info children extraKeys ih =>
    cases value with
    | map fields =>
      obtain ⟨others, rfl⟩ := h.exists_map
      exact readsAlike_keyed_of_omits hmixed.self (fun child hchild _ _ _ hvalue hother h =>
        ih child hchild (hc.child hchild).2.2 (hmixed.child hchild) hvalue hother h) hvalue hother h
    | seq items =>
      cases h with
      | same => exact fun _ _ => rfl
    | _ =>
      rw [← h.eq_of_scalar (by simp) (by simp)]
      exact fun _ _ => rfl
  | category info item minEntries defaultKey? ih =>
    cases value with
    | map fields =>
      obtain ⟨others, rfl⟩ := h.exists_map
      exact readsAlike_category_of_omits hc hmixed.self
        (fun hvalue hother h => ih hc.entry hmixed.entry hvalue hother h) hvalue hother h
    | seq items =>
      cases h with
      | same => exact fun _ _ => rfl
    | _ =>
      rw [← h.eq_of_scalar (by simp) (by simp)]
      exact fun _ _ => rfl
  | list info item minLength? maxLength? ih =>
    exact readsAlike_list_of_omits
      (fun hvalue hother h => ih hc.item hmixed.item hvalue hother h) hvalue hother h
  | _ =>
    cases h with
    | same => exact fun _ _ => rfl

/-- Null and nothing are the same to validation, unless the null is on top of a shared default. -/
theorem validate_omits {schema : Element} (hcheck : schema.check = .ok ())
    (hmixed : schema.Everywhere fun part => part.info.keyCase = .mixed) {value other : Value}
    (hvalue : value.Proper) (hother : other.Proper) (h : schema.OmitsInside value other)
    (mode : Mode) : schema.validate mode value = schema.validate mode other := by
  rw [validate, validate, readsAlike_of_omits ⟨"", false, hcheck⟩ hmixed hvalue hother h mode]

/-- Pairs of numbers with shared defaults. -/
def sharedPairs : Element :=
  .category {}
    (.keyed {} [.scalar { name? := some "a" } .int, .scalar { name? := some "b" } .int] false) 0
    (some "_")

/-- A pair on top of shared defaults that give a number for `a` only. -/
def pairOver (pair : OrderedMap Value) (defaults : OrderedMap Value) : Value :=
  .map ⟨[("_", .map defaults), ("k", .map pair)]⟩

/-- The null of the defaults can be left out, and so can the null on top of it. -/
theorem omits_pairOver : sharedPairs.OmitsInside
    (pairOver ⟨[("a", .int 2), ("b", .null)]⟩ ⟨[("a", .int 1), ("b", .null)]⟩)
    (pairOver ⟨[("a", .int 2)]⟩ ⟨[("a", .int 1)]⟩) := by
  have hleft : ∀ (n : Int64) (kept : String → Prop), ¬kept "b" →
      (Element.keyed {} [.scalar { name? := some "a" } .int, .scalar { name? := some "b" } .int]
        false).Omits kept (.map ⟨[("a", .int n), ("b", .null)]⟩) (.map ⟨[("a", .int n)]⟩) :=
    fun n kept hkept => Omits.erase (by simp [OrderedMap.Distinct, OrderedMap.keys]) "b" rfl rfl
      hkept
  refine .category rfl fun key value other hvalue hother => ?_
  replace hvalue := OrderedMap.mem_of_lookup hvalue
  simp only [List.mem_cons, Prod.mk.injEq, List.not_mem_nil, or_false] at hvalue
  rcases hvalue with ⟨rfl, rfl⟩ | ⟨rfl, rfl⟩
  · obtain rfl := Option.some.inj hother
    refine hleft 1 _ ?_
    rintro ⟨name, -, -, hname, hne, -⟩
    exact hne (Option.some.inj hname)
  · obtain rfl := Option.some.inj hother
    refine hleft 2 _ ?_
    rintro ⟨name, shared, below, hname, -, hshared, hbelow, hne⟩
    obtain rfl := Option.some.inj hname
    obtain rfl := Value.map.inj (Option.some.inj hshared)
    exact hne (Option.some.inj hbelow).symm

/-- A pair without its null is the same pair. -/
theorem validate_omits_pair : sharedPairs.validate .full
    (pairOver ⟨[("a", .int 2)]⟩ ⟨[("a", .int 1)]⟩) =
      .ok (.map ⟨[("k", .map ⟨[("a", .int 2), ("b", .null)]⟩)]⟩) := by
  have hmixed : sharedPairs.Everywhere fun part => part.info.keyCase = .mixed := by
    simp [sharedPairs, Everywhere.category_iff, Everywhere.keyed_iff, Everywhere.scalar_iff, info]
  have hproper : (pairOver ⟨[("a", .int 2), ("b", .null)]⟩
      ⟨[("a", .int 1), ("b", .null)]⟩).Proper := by
    simp [pairOver, Value.Proper.of_scalar, OrderedMap.Distinct, OrderedMap.keys]
  have hproper' : (pairOver ⟨[("a", .int 2)]⟩ ⟨[("a", .int 1)]⟩).Proper := by
    simp [pairOver, Value.Proper.of_scalar, OrderedMap.Distinct, OrderedMap.keys]
  exact (validate_omits rfl hmixed hproper hproper' omits_pairOver .full).symm

/-- A null on top of a shared default takes its place, though nothing would leave it there. -/
theorem validate_omits_ne : sharedPairs.check = .ok () ∧
    sharedPairs.validate .full (pairOver ⟨[("a", .null)]⟩ ⟨[("a", .int 1)]⟩) ≠
      sharedPairs.validate .full (pairOver ⟨[]⟩ ⟨[("a", .int 1)]⟩) := by
  refine ⟨rfl, fun h => ?_⟩
  have heq : Value.map ⟨[("k", .map ⟨[("a", .null), ("b", .null)]⟩)]⟩ =
      .map ⟨[("k", .map ⟨[("a", .int 1), ("b", .null)]⟩)]⟩ := Except.ok.inj h
  simp at heq

end Element

end ConfigSchema
