import ConfigSchema.Proofs.Element.Dump
import ConfigSchema.Proofs.Element.Layer
import ConfigSchema.Proofs.Element.RoundTrip

/-!
# Derived values and their siblings

A derived value is computed from the entries of its section, once these are valid. In a document it
still agrees with them, wherever the section stands, unless the section is below an entry for which
a category has a default: such an entry is copied, or put together with what is given, after its
derived values have been computed.

## Main definitions

- `Element.seenAt` — the declared entries as a derived element sees them
- `Element.Coherent` — the derived entries of a section are what the other entries give
- `Element.Validated` — a part describes a value that is not below an entry with a default

## Main statements

- `Element.coherent_of_resolveDerived` — computing the derived entries makes a section coherent
- `Element.coherent_of_validate` — so the sections of a valid document are coherent
- `Element.not_coherent_of_default` — but for those that a category has a default for
-/

namespace ConfigSchema

/-- Derived entries are computed one after the other. -/
theorem resolveDerived_append (path : String) (entries : OrderedMap Value)
    (before after : List Element) :
    resolveDerived path entries (before ++ after) = (do
      let fields ← resolveDerived path entries before
      resolveDerived path fields after) := by
  induction before generalizing entries with
  | nil => rfl
  | cons child rest ih =>
    cases child with
    | derived info resolve =>
      rw [List.cons_append, resolveDerived, resolveDerived]
      cases resolve entries with
      | error reason => rfl
      | ok value => exact ih _
    | _ => exact ih entries

/-- A mapping with distinct keys is made of what is found under its keys. -/
theorem OrderedMap.entries_eq_map {α : Type} {m : OrderedMap Value} (hm : m.Distinct)
    {names : List α} {name : α → String} (hkeys : m.keys = names.map name) :
    m.entries = names.map fun a => (name a, (m.get? (name a)).getD .null) := by
  have hself : m.entries = m.keys.map fun key => (key, (m.get? key).getD .null) := by
    rw [keys, List.map_map]
    refine (List.map_id _).symm.trans (List.map_congr_left fun entry hentry => ?_)
    have hget : m.get? entry.1 = some entry.2 := lookup_of_mem hm hentry
    simp [hget]
  rw [hself, hkeys, List.map_map]
  rfl

namespace Element

variable {info : Info} {mode : Mode} {path : String} {children : List Element}

/-! ## Coherent sections -/

/-- The declared entries of a section as the first of the `pending` elements sees them if it is
derived: it and all derived elements after it are still null. -/
def seenAt (fields : OrderedMap Value) (before pending : List Element) : OrderedMap Value :=
  ⟨before.map (fun child => (child.key, (fields.get? child.key).getD .null)) ++
    pending.map fun child => (child.key,
      if child.isDerived then .null else (fields.get? child.key).getD .null)⟩

/-- Each derived entry of a section is what its element makes of the declared entries, in their
order, where it and all derived entries after it are null. -/
def Coherent (children : List Element) (fields : OrderedMap Value) : Prop :=
  ∀ before info resolve after, children = before ++ derived info resolve :: after →
    ∃ value, fields.get? (derived info resolve).key = some value ∧
      resolve (seenAt fields before (derived info resolve :: after)) = .ok value

/-- Only what is under the names of the children counts. -/
theorem Coherent.congr {fields others : OrderedMap Value}
    (h : ∀ child ∈ children, others.get? child.key = fields.get? child.key)
    (hfields : Coherent children fields) : Coherent children others := by
  rintro before info resolve after rfl
  obtain ⟨value, hvalue, hresolve⟩ := hfields before info resolve after rfl
  have hseen : seenAt others before (derived info resolve :: after) =
      seenAt fields before (derived info resolve :: after) := by
    rw [seenAt, seenAt]
    congr 2
    · exact List.map_congr_left fun child hchild => by
        rw [h child (List.mem_append_left _ hchild)]
    · exact List.map_congr_left fun child hchild => by
        rw [h child (List.mem_append_right _ hchild)]
  refine ⟨value, ?_, by rw [hseen, hresolve]⟩
  rw [h _ (by simp), hvalue]

/-- Computing the derived entries makes a section coherent, if they were null before. -/
theorem coherent_of_resolveDerived {entries fields : OrderedMap Value}
    (hkeys : entries.keys = children.map key) (hd : (children.map key).Nodup)
    (hnull : ∀ child ∈ children, child.isDerived → entries.get? child.key = some .null)
    (h : resolveDerived path entries children = .ok fields) : Coherent children fields := by
  rintro before info resolve after rfl
  let pending := derived info resolve :: after
  rw [resolveDerived_append] at h
  obtain ⟨seen, hseen, hrest⟩ := Outcome.bind_eq_ok.mp h
  have hmem : ∀ child ∈ before ++ pending, child.key ∈ entries.keys := fun child hchild => by
    rw [hkeys]
    exact List.mem_map_of_mem hchild
  have hseenKeys : seen.keys = (before ++ pending).map key := by
    rw [keys_resolveDerived hseen fun child hchild => hmem child (List.mem_append_left _ hchild),
      hkeys]
  have hseenDistinct : seen.Distinct := by rwa [OrderedMap.Distinct, hseenKeys]
  have hapart : ∀ child ∈ before, ∀ other ∈ pending, child.key ≠ other.key := by
    rw [List.map_append] at hd
    exact fun child hchild other hother heq => List.disjoint_of_nodup_append hd
      (List.mem_map_of_mem hchild) (heq ▸ List.mem_map_of_mem hother)
  -- what the element sees: the entries before it, and those after it that are not derived
  have hbefore : ∀ child ∈ before, fields.get? child.key = seen.get? child.key :=
    fun child hchild => get?_resolveDerived hrest fun other hother _ heq =>
      hapart child hchild other hother heq.symm
  have hplain : ∀ child ∈ pending, child.isDerived = false →
      fields.get? child.key = seen.get? child.key := by
    intro child hchild hplain
    refine get?_resolveDerived hrest fun other hother hderived heq => ?_
    obtain rfl : other = child := List.inj_on_of_nodup_map hd (List.mem_append_right _ hother)
      (List.mem_append_right _ hchild) heq
    rw [hplain] at hderived
    cases hderived
  have hderived : ∀ child ∈ pending, child.isDerived → seen.get? child.key = some .null := by
    intro child hchild hderived
    rw [get?_resolveDerived hseen fun other hother _ => hapart other hother child hchild]
    exact hnull child (List.mem_append_right _ hchild) hderived
  have hseenAt : seen = seenAt fields before pending := by
    have hentries := OrderedMap.entries_eq_map hseenDistinct hseenKeys
    rw [List.map_append] at hentries
    refine congrArg OrderedMap.mk (hentries.trans (congrArg₂ _ ?_ ?_))
    · exact List.map_congr_left fun child hchild => by rw [hbefore child hchild]
    · refine List.map_congr_left fun child hchild => ?_
      cases hcomputed : child.isDerived with
      | true => rw [hderived child hchild hcomputed, if_pos rfl, Option.getD_some]
      | false => rw [hplain child hchild hcomputed, if_neg Bool.false_ne_true]
  simp only [resolveDerived] at hrest
  split at hrest
  · rename_i value hvalue
    refine ⟨value, ?_, hseenAt ▸ hvalue⟩
    have hlater : ∀ other ∈ after, other.isDerived → other.key ≠ (derived info resolve).key := by
      rw [List.map_append, List.map_cons] at hd
      exact fun other hother _ heq => (List.nodup_cons.mp (List.Nodup.of_append_right hd)).1
        (heq ▸ List.mem_map_of_mem hother)
    rw [get?_resolveDerived hrest hlater, OrderedMap.get?_insert, if_pos rfl]
  · cases hrest

/-- The entries of a section before any is computed are those of its children, and null where they
are to be computed. -/
theorem get?_of_validateChildren {fields : OrderedMap Value} {entries : List (String × Value)}
    (hd : (children.map key).Nodup)
    (h : validateChildren children mode path fields = .ok entries) {child : Element}
    (hchild : child ∈ children) (hderived : child.isDerived) :
    (⟨entries⟩ : OrderedMap Value).get? child.key = some .null := by
  induction children generalizing entries with
  | nil => cases hchild
  | cons first rest ih =>
    obtain ⟨valid, more, hvalid, hmore, rfl⟩ := validateChildren_cons_eq_ok.mp h
    obtain ⟨hfirst, hrest⟩ := List.nodup_cons.mp hd
    rcases List.mem_cons.mp hchild with rfl | hmem
    · rw [if_pos hderived] at hvalid
      simp [OrderedMap.get?, hvalid]
    · have hne : child.key ≠ first.key := fun heq => hfirst (heq ▸ List.mem_map_of_mem hmem)
      rw [OrderedMap.get?, OrderedMap.lookup_cons_of_ne valid more hne]
      exact ih hrest hmore hmem

/-- A valid section is coherent. -/
theorem coherent_of_validateAt_keyed {extraKeys : Bool}
    (hc : (keyed info children extraKeys).Checked)
    (hp : (keyed info children extraKeys).Everywhere Plain) {value : Value}
    {document : OrderedMap Value} (hreads : mode.Reads value)
    (h : (keyed info children extraKeys).validateAt mode path value = .ok (.map document)) :
    Coherent children document := by
  obtain ⟨fields, extras, entries, derived, -, hextras, hentries, hderived, heq⟩ :=
    (validateAt_keyed_eq_ok hc hp hreads).mp h
  obtain rfl := Value.map.inj heq
  refine Coherent.congr (fun child hchild => ?_) (coherent_of_resolveDerived
    (map_fst_validateChildren hentries) hc.nodup_keys
    (fun child hchild => get?_of_validateChildren hc.nodup_keys hentries hchild) hderived)
  exact OrderedMap.get?_insertMany_of_not_mem fun hmem =>
    not_mem_of_undeclaredEntries hc hextras _ hmem (List.mem_map_of_mem hchild)

/-! ## Entries of categories -/

/-- Inside a document of an element, a part of the element describes a value that is not below an
entry for which a category has a default. -/
inductive Validated (part : Element) (value : Value) : Element → Value → Prop
  | self : Validated part value part value
  | child {info : Info} {children : List Element} {extraKeys : Bool} {fields : OrderedMap Value}
      {child : Element} {inner : Value} (hchild : child ∈ children)
      (hinner : fields.get? child.key = some inner) (h : Validated part value child inner) :
      Validated part value (.keyed info children extraKeys) (.map fields)
  | entry {info : Info} {item : Element} {minEntries : Nat} {defaultKey? : Option String}
      {fields : OrderedMap Value} {entry : String × Value} (hentry : entry ∈ fields.entries)
      (hgiven : entry.1 ∉ info.defaultFields.keys) (h : Validated part value item entry.2) :
      Validated part value (.category info item minEntries defaultKey?) (.map fields)
  | item {info : Info} {item : Element} {minLength? maxLength? : Option Nat}
      {items : List Value} {inner : Value} (hitem : inner ∈ items)
      (h : Validated part value item inner) :
      Validated part value (.list info item minLength? maxLength?) (.seq items)

/-- Where no category has a default, all parts describe such values. -/
theorem Describes.validated {part element : Element} {value document : Value}
    (hnone : ∀ info item minEntries defaultKey?,
      (category info item minEntries defaultKey?).Within element → info.default? = none)
    (h : Describes part value element document) : Validated part value element document := by
  induction h with
  | self => exact .self
  | child hchild hinner _ ih =>
    exact .child hchild hinner (ih fun info item minEntries defaultKey? hwithin =>
      hnone info item minEntries defaultKey? (.part hchild hwithin))
  | entry hentry _ ih =>
    refine .entry hentry ?_ (ih fun info item minEntries defaultKey? hwithin =>
      hnone info item minEntries defaultKey? (.part (List.mem_singleton.mpr rfl) hwithin))
    rw [Info.defaultFields, hnone _ _ _ _ .self]
    exact List.not_mem_nil
  | item hitem _ ih =>
    exact .item hitem (ih fun info item minEntries defaultKey? hwithin =>
      hnone info item minEntries defaultKey? (.part (List.mem_singleton.mpr rfl) hwithin))

theorem addEntry_eq_ok {item : Element} {shared? : Option (OrderedMap Value)}
    {out result : OrderedMap Value} {entry : String × Value}
    (h : addEntry info item mode path shared? out entry = .ok result) :
    ∃ valid, item.validateAt mode (Path.join path entry.1) (withShared shared? entry.2) =
        .ok valid ∧
      result = out.insert entry.1 (match out.get? entry.1 with
        | some existing => item.merge existing valid
        | none => valid) := by
  obtain ⟨-, -, h⟩ := Outcome.bind_eq_ok.mp h
  obtain ⟨valid, hvalid, h⟩ := Outcome.bind_eq_ok.mp h
  exact ⟨valid, hvalid, (Outcome.pure_eq_ok.mp h).symm⟩

theorem distinct_of_foldlM_addEntry {item : Element} {shared? : Option (OrderedMap Value)}
    {entries : List (String × Value)} {start result : OrderedMap Value} (hstart : start.Distinct)
    (h : entries.foldlM (addEntry info item mode path shared?) start = .ok result) :
    result.Distinct := by
  induction entries generalizing start with
  | nil => rwa [← Except.ok.inj h]
  | cons entry rest ih =>
    rw [List.foldlM_cons] at h
    obtain ⟨out, hfirst, h⟩ := Outcome.bind_eq_ok.mp h
    obtain ⟨valid, -, rfl⟩ := addEntry_eq_ok hfirst
    exact ih (OrderedMap.distinct_insert hstart _ _) h

theorem get?_foldlM_addEntry {item : Element} {shared? : Option (OrderedMap Value)}
    {entries : List (String × Value)} {start result : OrderedMap Value} {key : String}
    (hkey : key ∉ entries.map Prod.fst)
    (h : entries.foldlM (addEntry info item mode path shared?) start = .ok result) :
    result.get? key = start.get? key := by
  induction entries generalizing start with
  | nil => rw [← Except.ok.inj h]
  | cons entry rest ih =>
    rw [List.foldlM_cons] at h
    obtain ⟨out, hfirst, h⟩ := Outcome.bind_eq_ok.mp h
    obtain ⟨valid, -, rfl⟩ := addEntry_eq_ok hfirst
    rw [List.map_cons, List.mem_cons, not_or] at hkey
    rw [ih hkey.2 h, OrderedMap.get?_insert, if_neg hkey.1]

/-- The valid form of an entry is put on top of what was under its key before. -/
theorem exists_of_mem_foldlM_addEntry {item : Element} {shared? : Option (OrderedMap Value)}
    {entries : List (String × Value)} (hd : (entries.map Prod.fst).Nodup)
    {start result : OrderedMap Value} {entry : String × Value} (hentry : entry ∈ entries)
    (h : entries.foldlM (addEntry info item mode path shared?) start = .ok result) :
    ∃ valid, item.validateAt mode (Path.join path entry.1) (withShared shared? entry.2) =
        .ok valid ∧
      result.get? entry.1 = some (match start.get? entry.1 with
        | some existing => item.merge existing valid
        | none => valid) := by
  induction entries generalizing start with
  | nil => cases hentry
  | cons first rest ih =>
    rw [List.foldlM_cons] at h
    obtain ⟨out, hfirst, h⟩ := Outcome.bind_eq_ok.mp h
    obtain ⟨valid, hvalid, rfl⟩ := addEntry_eq_ok hfirst
    obtain ⟨hnew, hrest⟩ := List.nodup_cons.mp hd
    rcases List.mem_cons.mp hentry with rfl | hmem
    · -- no later entry has the key
      refine ⟨valid, hvalid, ?_⟩
      rw [get?_foldlM_addEntry hnew h, OrderedMap.get?_insert, if_pos rfl]
    · have hkey : entry.1 ≠ first.1 := fun heq => hnew (heq ▸ List.mem_map_of_mem hmem)
      obtain ⟨valid, hvalid, hget⟩ := ih hrest hmem h
      rw [OrderedMap.get?_insert, if_neg hkey] at hget
      exact ⟨valid, hvalid, hget⟩

/-- An entry under a key that was not there before is the valid form of one that is given. -/
theorem exists_of_foldlM_addEntry {item : Element} {shared? : Option (OrderedMap Value)}
    {entries : List (String × Value)} (hd : (entries.map Prod.fst).Nodup)
    {start result : OrderedMap Value} {key : String} {value : Value}
    (h : entries.foldlM (addEntry info item mode path shared?) start = .ok result)
    (hstart : start.get? key = none) (hvalue : result.get? key = some value) :
    ∃ raw, (key, raw) ∈ entries ∧
      item.validateAt mode (Path.join path key) (withShared shared? raw) = .ok value := by
  by_cases hkey : key ∈ entries.map Prod.fst
  · obtain ⟨⟨_, raw⟩, hentry, rfl⟩ := List.mem_map.mp hkey
    obtain ⟨valid, hvalid, hget⟩ := exists_of_mem_foldlM_addEntry hd hentry h
    rw [hstart, hvalue] at hget
    obtain rfl := Option.some.inj hget
    exact ⟨raw, hentry, hvalid⟩
  · rw [get?_foldlM_addEntry hkey h, hstart] at hvalue
    cases hvalue

/-! ## Documents -/

/-- The values from which a section is validated have distinct keys, if value and default have. -/
theorem proper_of_sectionFields {extraKeys : Bool}
    (hdefault : (keyed info children extraKeys).HasProperDefault) {value : Value}
    (hvalue : value.Proper) {fields : OrderedMap Value}
    (h : info.sectionFields path value = .ok fields) (key : String) :
    ((fields.get? key).getD .null).Proper := by
  refine .getD ?_ key
  cases value with
  | null =>
    obtain ⟨default, habsent, h⟩ := Outcome.bind_eq_ok.mp h
    obtain rfl := Outcome.pure_eq_ok.mp h
    intro entry hentry
    rcases Info.absent_eq_ok.mp habsent with hsome | ⟨-, -, rfl⟩
    · cases default with
      | map inner => exact (hdefault.proper _ hsome).of_field hentry
      | _ => cases hentry
    · cases hentry
  | map raw => exact (proper_of_foldKeys hvalue h).2.2
  | _ => cases h

/-- The entries of a valid category for which it has no default are valid forms of values with
distinct keys. -/
theorem exists_of_validateAt_category {item : Element} {minEntries : Nat}
    {defaultKey? : Option String}
    (hp : (category info item minEntries defaultKey?).Everywhere Plain)
    (hdefault : (category info item minEntries defaultKey?).HasProperDefault)
    {value : Value} (hvalue : value.Proper) {result : OrderedMap Value}
    (h : (category info item minEntries defaultKey?).validateAt .full path value =
      .ok (.map result))
    {entry : String × Value} (hentry : entry ∈ result.entries)
    (hgiven : entry.1 ∉ info.defaultFields.keys) :
    ∃ q raw, raw.Proper ∧ item.validateAt .full q raw = .ok entry.2 := by
  obtain ⟨fields, shared?, others, entries, hfields, hshared, hentries, -, heq⟩ :=
    (validateAt_category_iff hp.entry.self (.inl rfl)).mp h
  obtain rfl := Value.map.inj heq
  obtain ⟨hdistinct, -, hproper⟩ := categoryFields_eq_ok hvalue hfields
  obtain ⟨hsublist, -, -⟩ := takeShared_eq_ok hdistinct hshared
  have hget : result.get? entry.1 = some entry.2 :=
    OrderedMap.lookup_of_mem
      (distinct_of_foldlM_addEntry hdefault.distinct_defaultFields hentries) hentry
  obtain ⟨raw, hraw, hvalid⟩ := exists_of_foldlM_addEntry
    (hdistinct.sublist (hsublist.map Prod.fst)) hentries
    ((OrderedMap.get?_eq_none_iff _ _).mpr hgiven) hget
  exact ⟨_, _, proper_of_takeShared hdistinct hproper hshared hraw, hvalid⟩

/-- The sections of a valid document are coherent, unless a category has a default for them. -/
theorem coherent_of_validateAt {element : Element} (hc : element.Checked)
    (hp : element.Everywhere Plain) (hdefaults : element.Everywhere HasProperDefault)
    {value document : Value} (hvalue : value.Proper)
    (h : element.validateAt .full path value = .ok document) {extraKeys : Bool}
    {fields : OrderedMap Value}
    (hpart : Validated (keyed info children extraKeys) (.map fields) element document) :
    Coherent children fields := by
  induction element using Element.induction generalizing path value document with
  | keyed outer siblings outerExtra ih =>
    cases hpart with
    | self => exact coherent_of_validateAt_keyed hc hp (.inl rfl) h
    | @child _ _ _ _ child inner hchild hinner hpart =>
      obtain ⟨raw, result, hraw, heq, -, hresult⟩ := exists_of_validateAt_keyed hc hp (.inl rfl) h
      obtain rfl := Value.map.inj heq
      cases hplain : child.isDerived with
      | true =>
        cases child with
        | derived => cases hpart
        | _ => cases hplain
      | false =>
        obtain ⟨inner', hinner', hvalid⟩ := hresult child hchild hplain
        obtain rfl := Option.some.inj (hinner.symm.trans hinner')
        exact ih child hchild (hc.child hchild).2.2 (hp.child hchild) (hdefaults.child hchild)
          (proper_of_sectionFields hdefaults.self hvalue hraw child.key) hvalid hpart
  | category outer item minEntries defaultKey? ih =>
    cases hpart with
    | entry hentry hgiven hpart =>
      obtain ⟨q, raw, hraw, hvalid⟩ :=
        exists_of_validateAt_category hp hdefaults.self hvalue h hentry hgiven
      exact ih hc.entry hp.entry hdefaults.entry hraw hvalid hpart
  | list outer item minLength? maxLength? ih =>
    cases hpart with
    | item hitem hpart =>
      obtain ⟨items, valids, hitems, -, hvalids, -, heq⟩ :=
        (validateAt_list_eq_ok hp.item.self (.inl rfl)).mp h
      obtain rfl := Value.seq.inj heq
      obtain ⟨raw, hraw, index, hvalid⟩ :=
        Outcome.exists_of_forall₂ (Outcome.forall₂_of_mapM_zipIdx hvalids) hitem
      exact ih hc.item hp.item hdefaults.item
        (proper_of_listItems hvalue (fun _ => hdefaults.self.proper) hitems raw hraw) hvalid hpart
  | _ => cases hpart

/-- In a valid document the derived entries of every section agree with the other entries, unless a
category has a default for an entry above the section. -/
theorem coherent_of_validate {schema : Element} (hcheck : schema.check = .ok ())
    (hp : schema.Everywhere Plain) (hdefaults : schema.Everywhere HasProperDefault)
    {raw document : Value} (hraw : raw.Proper)
    (h : schema.validate .full raw = .ok document) :
    (∀ info children extraKeys fields,
      Validated (keyed info children extraKeys) (.map fields) schema document →
        Coherent children fields) ∧
      ((∀ info item minEntries defaultKey?,
          (category info item minEntries defaultKey?).Within schema → info.default? = none) →
        ∀ info children extraKeys fields,
          Describes (keyed info children extraKeys) (.map fields) schema document →
            Coherent children fields) := by
  rw [hp.self.validate] at h
  have hcoherent : ∀ info children extraKeys fields,
      Validated (keyed info children extraKeys) (.map fields) schema document →
        Coherent children fields := fun info children extraKeys fields hpart =>
    coherent_of_validateAt ⟨"", false, hcheck⟩ hp hdefaults hraw h hpart
  exact ⟨hcoherent, fun hnone info children extraKeys fields hpart =>
    hcoherent info children extraKeys fields (hpart.validated hnone)⟩

/-- The number of cars is computed from the entries of the fleet, where it is still null. -/
theorem coherent_of_validate_fleet :
    Samples.carCount ⟨[
      ("cars", .seq [.map ⟨[
        ("color", .str "red"),
        ("make", .str "Fiat"),
        ("year", .null),
        ("accessories", .map ⟨[]⟩)]⟩]),
      ("garages", .map ⟨[
        ("north", .map ⟨[("spaces", .int 2), ("door", .str "roller"), ("city", .str "Oslo")]⟩)]⟩),
      ("notes", .str "one\ntwo\n"),
      ("car_count", .null)]⟩ = .ok (.int 1) := by
  obtain ⟨hcoherent, -⟩ := coherent_of_validate rfl replayable_fleet.plain
    (replayable_fleet.settled.imp fun _ => Settled.toHasProperDefault) proper_fleetRaw
    (show Samples.fleet.validate .full fleetRaw = .ok fleetDocument from rfl)
  obtain ⟨value, hvalue, hresolve⟩ := hcoherent _ _ _ _ .self [_, _, _] _ _ [] rfl
  obtain rfl := Option.some.inj hvalue
  exact hresolve

/-- A category of sections with a number and its copy, and a default for one of them. -/
def copyingCategory : Element :=
  let copy (siblings : OrderedMap Value) : Except String Value :=
    .ok ((siblings.get? "a").getD .null)
  category { default? := some (.map ⟨[("k", .map ⟨[("a", .int 1)]⟩)]⟩) }
    (keyed {} [scalar { name? := some "a" } .int, derived { name? := some "n" } copy] false) 0 none

/-- A category puts the entry for which it has a default together with the one that is given. What
was computed from the latter alone stays as it is, so the section is not coherent. -/
theorem not_coherent_of_default :
    ∃ (schema : Element) (raw document : Value) (info : Info) (children : List Element)
      (extraKeys : Bool) (fields : OrderedMap Value), schema.check = .ok () ∧
      schema.Everywhere Plain ∧ schema.Everywhere HasProperDefault ∧ raw.Proper ∧
      schema.validate .full raw = .ok document ∧
      Describes (keyed info children extraKeys) (.map fields) schema document ∧
      ¬Coherent children fields := by
  have hp : copyingCategory.Everywhere Plain := by
    simp [copyingCategory, Everywhere.category_iff, Everywhere.keyed_iff, Everywhere.scalar_iff,
      Everywhere.derived_iff, info]
  have hdefaults : copyingCategory.Everywhere HasProperDefault := by
    simp only [copyingCategory, Everywhere.category_iff, Everywhere.keyed_iff,
      List.forall_mem_cons, Everywhere.scalar_iff, Everywhere.derived_iff]
    refine ⟨⟨fun default hdefault => ?_⟩, .of_none rfl, .of_none rfl, .of_none rfl, by simp⟩
    obtain rfl := Option.some.inj hdefault
    simp [Value.Proper.of_scalar, OrderedMap.Distinct, OrderedMap.keys]
  refine ⟨copyingCategory, .map ⟨[("k", .emptyMap)]⟩,
    .map ⟨[("k", .map ⟨[("a", .int 1), ("n", .null)]⟩)]⟩, _, _, _,
    ⟨[("a", .int 1), ("n", .null)]⟩, rfl, hp, hdefaults, ?_, rfl,
    .entry List.mem_cons_self .self, fun hcoherent => ?_⟩
  · simp [Value.emptyMap, OrderedMap.empty, OrderedMap.Distinct, OrderedMap.keys]
  · obtain ⟨value, hvalue, hresolve⟩ := hcoherent [_] _ _ [] rfl
    obtain rfl := Option.some.inj hvalue
    cases hresolve

end Element

end ConfigSchema
