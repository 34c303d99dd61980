import ConfigSchema.Proofs.Element.Form

/-!
# Valid sections, categories and lists

When a collection is valid, given what its parts do, and that it has its form then.

## Main definitions

- `Mode.Reads` — a value is validated in a mode, and not left as it is

## Main statements

- `Element.validateAt_keyed`, `Element.validateAt_category`, `Element.validateAt_list` — validation
  as a chain of steps
- `Element.validateAt_keyed_eq_ok`, `Element.validateAt_category_eq_ok`,
  `Element.validateAt_list_eq_ok` — validation step by step, where no last step interferes
- `Element.validateAt_category_iff` — the same for a category that starts from its default
- `Element.Settled.isForm` — what validation gives has the form of the element
-/

namespace ConfigSchema

/-- A value is validated in a mode. A layer leaves null as it is. -/
def Mode.Reads (mode : Mode) (value : Value) : Prop := mode = .full ∨ value ≠ .null

theorem Mode.Reads.not_skipped {mode : Mode} {value : Value} (h : mode.Reads value) :
    (mode == .layer && value.isNull) = false := by
  rcases h with rfl | hvalue
  · rfl
  · cases value with
    | null => exact absurd rfl hvalue
    | _ => exact Bool.and_false _

/-- What is not validated in a mode is null in a layer. -/
theorem Mode.reads_or (mode : Mode) (value : Value) :
    mode.Reads value ∨ mode = .layer ∧ value = .null := by
  cases mode with
  | full => exact .inl (.inl rfl)
  | layer =>
    by_cases hvalue : value = .null
    · exact .inr ⟨rfl, hvalue⟩
    · exact .inl (.inr hvalue)

namespace Element

variable {info : Info} {mode : Mode} {path : String}

/-! ## Sections -/

/-- The declared entries are valid if each of them is; those that are derived count as null. -/
theorem validateChildren_cons_eq_ok {child : Element} {rest : List Element}
    {fields : OrderedMap Value} {entries : List (String × Value)} :
    validateChildren (child :: rest) mode path fields = .ok entries ↔
      ∃ valid more,
        (if child.isDerived then valid = .null
          else child.validateAt mode (Path.join path child.key)
            ((fields.get? child.key).getD .null) = .ok valid) ∧
        validateChildren rest mode path fields = .ok more ∧
        entries = (child.key, valid) :: more := by
  rw [validateChildren]
  exact Outcome.cons_eq_ok

theorem map_fst_validateChildren {children : List Element} {fields : OrderedMap Value}
    {entries : List (String × Value)}
    (h : validateChildren children mode path fields = .ok entries) :
    entries.map Prod.fst = children.map key := by
  induction children generalizing entries with
  | nil => simp [← Except.ok.inj h]
  | cons child rest ih =>
    obtain ⟨valid, more, -, hmore, rfl⟩ := validateChildren_cons_eq_ok.mp h
    rw [List.map_cons, List.map_cons, ih hmore]

/-- Computing the entries of a section keeps their keys, which are the names of the children. -/
theorem keys_of_resolveDerived {children : List Element} {entries : List (String × Value)}
    {fields : OrderedMap Value} (hkeys : entries.map Prod.fst = children.map key)
    (h : resolveDerived path ⟨entries⟩ children = .ok fields) :
    fields.keys = children.map key := by
  have hmem : ∀ child ∈ children, child.key ∈ OrderedMap.keys (⟨entries⟩ : OrderedMap Value) := by
    intro child hchild
    rw [OrderedMap.keys, hkeys]
    exact List.mem_map_of_mem hchild
  rw [keys_resolveDerived h hmem, OrderedMap.keys, hkeys]

/-- The steps in which a section is validated. -/
theorem validateAt_keyed {children : List Element} {extraKeys : Bool} {value : Value}
    (hreads : mode.Reads value) :
    (keyed info children extraKeys).validateAt mode path value = (do
      let fields ← info.sectionFields path value
      let extras ← undeclaredEntries children extraKeys path fields.entries
      let entries ← validateChildren children mode path fields
      let derived ← resolveDerived path (.ofList entries) children
      return .map (← finishChildren path children (derived.insertMany extras))) := by
  rw [validateAt.eq_def]
  dsimp only
  rw [hreads.not_skipped, if_neg Bool.false_ne_true]

/-- A section is valid step by step: its entries, the undeclared ones, the valid forms of the
declared ones, and the computed ones. -/
theorem validateAt_keyed_eq_ok {children : List Element} {extraKeys : Bool}
    (hc : (keyed info children extraKeys).Checked)
    (hp : (keyed info children extraKeys).Everywhere Plain) {value document : Value}
    (hreads : mode.Reads value) :
    (keyed info children extraKeys).validateAt mode path value = .ok document ↔
      ∃ fields extras entries derived, info.sectionFields path value = .ok fields ∧
        undeclaredEntries children extraKeys path fields.entries = .ok extras ∧
        validateChildren children mode path fields = .ok entries ∧
        resolveDerived path ⟨entries⟩ children = .ok derived ∧
        document = .map (derived.insertMany extras) := by
  -- the last steps keep the section, whose keys include the names of the children
  have hfinish : ∀ extras entries derived fields,
      validateChildren children mode path fields = .ok entries →
      resolveDerived path ⟨entries⟩ children = .ok derived →
      finishChildren path children (derived.insertMany extras) =
        .ok (derived.insertMany extras) := by
    intro extras entries derived fields hentries hderived
    refine finishChildren_of_finish (fun child hchild => (hp.child hchild).self.finish) ?_
    intro child hchild
    refine OrderedMap.mem_keys_insertMany extras ?_
    rw [keys_of_resolveDerived (map_fst_validateChildren hentries) hderived]
    exact List.mem_map_of_mem hchild
  have hlist : ∀ entries fields, validateChildren children mode path fields = .ok entries →
      OrderedMap.ofList entries = ⟨entries⟩ := by
    intro entries fields hentries
    refine OrderedMap.ofList_of_nodup ?_
    rw [map_fst_validateChildren hentries]
    exact hc.nodup_keys
  rw [validateAt_keyed hreads]
  simp only [Outcome.bind_eq_ok, Outcome.pure_eq_ok]
  constructor
  · rintro ⟨fields, hfields, extras, hextras, entries, hentries, derived, hderived, final,
      hfinal, rfl⟩
    rw [hlist entries fields hentries] at hderived
    rw [hfinish extras entries derived fields hentries hderived] at hfinal
    rw [← Except.ok.inj hfinal]
    exact ⟨fields, extras, entries, derived, hfields, hextras, hentries, hderived, rfl⟩
  · rintro ⟨fields, extras, entries, derived, hfields, hextras, hentries, hderived, rfl⟩
    refine ⟨fields, hfields, extras, hextras, entries, hentries, derived, ?_, _,
      hfinish extras entries derived fields hentries hderived, rfl⟩
    rw [hlist entries fields hentries]
    exact hderived

/-- The declared entries of a valid section have their form, if each child brings its value into
its form. -/
theorem entriesForm_of_validateChildren {children : List Element} {fields : OrderedMap Value}
    (hproper : ∀ entry ∈ fields.entries, entry.2.Proper)
    (ih : ∀ child ∈ children, ∀ path value document, value.Proper →
      child.validateAt .full path value = .ok document → child.IsForm document)
    {entries : List (String × Value)}
    (h : validateChildren children .full path fields = .ok entries) :
    EntriesForm children entries := by
  induction children generalizing entries with
  | nil => exact (Except.ok.inj h).symm
  | cons child rest ihrest =>
    obtain ⟨valid, more, hvalid, hmore, rfl⟩ := validateChildren_cons_eq_ok.mp h
    refine ⟨valid, more, rfl, ?_, ihrest (fun other hother => ih other (by simp [hother])) hmore⟩
    split at hvalid
    · rename_i hderived
      rwa [if_pos hderived]
    · rename_i hderived
      rw [if_neg hderived]
      exact ih child (by simp) _ _ _ (.getD hproper child.key) hvalid

/-- No undeclared entry has the name of a child. -/
theorem not_mem_of_undeclaredEntries {children : List Element} {extraKeys : Bool}
    (hc : (keyed info children extraKeys).Checked) {entries extras : List (String × Value)}
    (h : undeclaredEntries children extraKeys path entries = .ok extras) :
    ∀ name ∈ extras.map Prod.fst, name ∉ children.map key := by
  obtain ⟨rfl, -⟩ := undeclaredEntries_eq_ok.mp h
  intro name hname
  obtain ⟨entry, hentry, rfl⟩ := List.mem_map.mp hname
  rw [← any_isNamed_iff hc]
  simpa using (List.mem_filter.mp hentry).2

/-- The undeclared entries have their form, if the keys of the section are distinct and folded. -/
theorem extraForm_of_undeclaredEntries {children : List Element} {extraKeys : Bool}
    (hc : (keyed info children extraKeys).Checked) {fields : OrderedMap Value}
    {extras : List (String × Value)} (hd : fields.Distinct) (hfolded : fields.Folded info.keyCase)
    (hproper : ∀ entry ∈ fields.entries, entry.2.Proper)
    (h : undeclaredEntries children extraKeys path fields.entries = .ok extras) :
    ExtraForm info children extraKeys extras := by
  have hundeclared := not_mem_of_undeclaredEntries hc h
  obtain ⟨rfl, hallowed⟩ := undeclaredEntries_eq_ok.mp h
  refine ⟨hd.sublist (List.filter_sublist.map _), hundeclared, fun key hkey => ?_,
    fun entry hentry => hproper entry (List.mem_filter.mp hentry).1, hallowed⟩
  obtain ⟨entry, hentry, rfl⟩ := List.mem_map.mp hkey
  exact hfolded _ (List.mem_map_of_mem (List.mem_filter.mp hentry).1)

/-- Declared entries, some of which may be missing, and extra ones have distinct and folded keys. -/
theorem fields_of_extraForm {children : List Element} {extraKeys : Bool}
    (hc : (keyed info children extraKeys).Checked) {declared extras : List (String × Value)}
    (h : ExtraForm info children extraKeys extras)
    (hdeclared : (declared.map Prod.fst).Sublist (children.map key)) :
    OrderedMap.Distinct (⟨declared ++ extras⟩ : OrderedMap Value) ∧
      OrderedMap.Folded info.keyCase (⟨declared ++ extras⟩ : OrderedMap Value) := by
  have hkeys : OrderedMap.keys (⟨declared ++ extras⟩ : OrderedMap Value) =
      declared.map Prod.fst ++ extras.map Prod.fst := List.map_append ..
  constructor
  · rw [OrderedMap.Distinct, hkeys, List.nodup_append']
    exact ⟨hc.nodup_keys.sublist hdeclared, h.distinct, fun name hname hextra =>
      h.undeclared name hextra (hdeclared.subset hname)⟩
  · intro name hname
    rw [hkeys] at hname
    rcases List.mem_append.mp hname with hmem | hextra
    · obtain ⟨child, hchild, rfl⟩ := List.mem_map.mp (hdeclared.subset hmem)
      exact hc.apply_key hchild
    · exact h.folded name hextra

/-- A section that is valid on distinct and folded keys has its form. -/
theorem isForm_of_sectionFields {children : List Element} {extraKeys : Bool}
    (hc : (keyed info children extraKeys).Checked)
    (ih : ∀ child ∈ children, ∀ path value document, value.Proper →
      child.validateAt .full path value = .ok document → child.IsForm document)
    {fields derived : OrderedMap Value} {extras entries : List (String × Value)}
    (hd : fields.Distinct) (hfolded : fields.Folded info.keyCase)
    (hproper : ∀ entry ∈ fields.entries, entry.2.Proper)
    (hextras : undeclaredEntries children extraKeys path fields.entries = .ok extras)
    (hentries : validateChildren children .full path fields = .ok entries)
    (hderived : resolveDerived path ⟨entries⟩ children = .ok derived) :
    (keyed info children extraKeys).IsForm (.map (derived.insertMany extras)) := by
  have hkeys := keys_of_resolveDerived (map_fst_validateChildren hentries) hderived
  have hform := extraForm_of_undeclaredEntries hc hd hfolded hproper hextras
  refine ⟨entries, derived, extras, entriesForm_of_validateChildren hproper ih hentries,
    (resolveDerived_alike path "" _ children derived).mp hderived, hform, ?_⟩
  rw [OrderedMap.insertMany_of_disjoint hform.distinct]
  intro key hkey
  rw [hkeys]
  exact hform.undeclared key hkey

/-! ## Categories -/

/-- Adds the valid form of one entry to the entries of a category. -/
def addEntry (info : Info) (item : Element) (mode : Mode) (path : String)
    (shared? : Option (OrderedMap Value)) (out : OrderedMap Value) (entry : String × Value) :
    Except Failure (OrderedMap Value) := do
  info.checkKey (Path.join path entry.1) entry.1
  let valid ← item.validateAt mode (Path.join path entry.1) (withShared shared? entry.2)
  return out.insert entry.1 (match out.get? entry.1 with
    | some existing => item.merge existing valid
    | none => valid)

/-- The entries that a category starts from: those of its default, in a whole document. -/
def startEntries (info : Info) (mode : Mode) : OrderedMap Value :=
  if mode == .full then info.defaultFields else .empty

/-- The steps in which a category is validated. -/
theorem validateAt_category {item : Element} {minEntries : Nat} {defaultKey? : Option String}
    {value : Value} (hreads : mode.Reads value) :
    (category info item minEntries defaultKey?).validateAt mode path value = (do
      let fields ← info.categoryFields path value
      let shared ← takeShared (fun path value => item.validateAt .layer path value) path
        defaultKey? fields
      let entries ← shared.2.entries.foldlM (addEntry info item mode path shared.1)
        (startEntries info mode)
      if entries.size < minEntries then
        throw (.invalid path (.tooFewEntries minEntries entries.size))
      return .map (← item.finishEntries path entries)) := by
  rw [validateAt.eq_def]
  dsimp only
  rw [hreads.not_skipped, if_neg Bool.false_ne_true]
  rfl

/-- Without a default of its own, a category starts from nothing. -/
theorem startEntries_eq_empty (h : mode = .full → info.default? = none) :
    startEntries info mode = .empty := by
  cases mode with
  | layer => rfl
  | full => rw [startEntries, Info.defaultFields, h rfl]; rfl

/-- The valid form of an entry of a category stands under the same key. -/
def EntryValid (info : Info) (item : Element) (mode : Mode) (path : String)
    (shared? : Option (OrderedMap Value)) (entry valid : String × Value) : Prop :=
  valid.1 = entry.1 ∧ info.checkKey (Path.join path entry.1) entry.1 = .ok () ∧
    item.validateAt mode (Path.join path entry.1) (withShared shared? entry.2) = .ok valid.2

/-- Under distinct keys, entries are added one after the other, and none is merged with another. -/
theorem foldlM_addEntry_eq_ok {item : Element} {shared? : Option (OrderedMap Value)}
    {fields result : OrderedMap Value} (hd : fields.Distinct) :
    fields.entries.foldlM (addEntry info item mode path shared?) .empty = .ok result ↔
      ∃ valids, List.Forall₂ (EntryValid info item mode path shared?) fields.entries valids ∧
        result = ⟨valids⟩ := by
  refine foldlM_insert_eq_ok (fun entry valid =>
    info.checkKey (Path.join path entry.1) entry.1 = .ok () ∧
      item.validateAt mode (Path.join path entry.1) (withShared shared? entry.2) = .ok valid)
    (fun out entry result hkey => ?_) hd .empty result (by simp [OrderedMap.keys, OrderedMap.empty])
  simp only [addEntry, (out.get?_eq_none_iff entry.1).mpr hkey, Outcome.bind_eq_ok,
    Outcome.pure_eq_ok]
  constructor
  · rintro ⟨⟨⟩, hcheck, valid, hvalid, rfl⟩
    exact ⟨valid, ⟨hcheck, hvalid⟩, rfl⟩
  · rintro ⟨valid, ⟨hcheck, hvalid⟩, rfl⟩
    exact ⟨(), hcheck, valid, hvalid, rfl⟩

theorem map_fst_of_entryValid {item : Element} {shared? : Option (OrderedMap Value)}
    {entries valids : List (String × Value)}
    (h : List.Forall₂ (EntryValid info item mode path shared?) entries valids) :
    valids.map Prod.fst = entries.map Prod.fst := by
  induction h with
  | nil => rfl
  | cons hvalid _ ih => rw [List.map_cons, List.map_cons, ih, hvalid.1]

/-- A category whose entries have no last step is valid if there are enough entries after those that
are given have been added to those it starts from. -/
theorem validateAt_category_iff {item : Element} {minEntries : Nat} {defaultKey? : Option String}
    {value document : Value} (hp : item.Plain) (hreads : mode.Reads value) :
    (category info item minEntries defaultKey?).validateAt mode path value = .ok document ↔
      ∃ fields shared? others entries, info.categoryFields path value = .ok fields ∧
        takeShared (fun path value => item.validateAt .layer path value) path defaultKey? fields =
          .ok (shared?, others) ∧
        others.entries.foldlM (addEntry info item mode path shared?) (startEntries info mode) =
          .ok entries ∧
        minEntries ≤ entries.size ∧ document = .map entries := by
  rw [validateAt_category hreads]
  simp only [Outcome.bind_eq_ok]
  constructor
  · rintro ⟨fields, hfields, ⟨shared?, others⟩, hshared, entries, hentries, h⟩
    split at h
    · cases h
    · rename_i hsize
      rw [finishEntries_of_finish hp.finish] at h
      exact ⟨fields, shared?, others, entries, hfields, hshared, hentries, Nat.le_of_not_lt hsize,
        (Except.ok.inj h).symm⟩
  · rintro ⟨fields, shared?, others, entries, hfields, hshared, hentries, hsize, rfl⟩
    refine ⟨fields, hfields, (shared?, others), hshared, entries, hentries, ?_⟩
    rw [finishEntries_of_finish hp.finish]
    exact if_neg (Nat.not_lt.mpr hsize)

/-- A category that starts from nothing is valid step by step: its entries, the shared defaults
among them, and the valid forms of the others. -/
theorem validateAt_category_eq_ok {item : Element} {minEntries : Nat}
    {defaultKey? : Option String} {value document : Value} (hp : item.Plain)
    (hreads : mode.Reads value) (hstart : mode = .full → info.default? = none)
    (hdistinct : ∀ fields, info.categoryFields path value = .ok fields → fields.Distinct) :
    (category info item minEntries defaultKey?).validateAt mode path value = .ok document ↔
      ∃ fields shared? others valids, info.categoryFields path value = .ok fields ∧
        takeShared (fun path value => item.validateAt .layer path value) path defaultKey? fields =
          .ok (shared?, others) ∧
        List.Forall₂ (EntryValid info item mode path shared?) others.entries valids ∧
        minEntries ≤ valids.length ∧ document = .map ⟨valids⟩ := by
  have hothers : ∀ fields shared? others, info.categoryFields path value = .ok fields →
      takeShared (fun path value => item.validateAt .layer path value) path defaultKey? fields =
        .ok (shared?, others) → others.Distinct := by
    intro fields shared? others hfields hshared
    obtain ⟨hsublist, -⟩ := takeShared_eq_ok (hdistinct fields hfields) hshared
    exact (hdistinct fields hfields).sublist (hsublist.map _)
  rw [validateAt_category_iff hp hreads, startEntries_eq_empty hstart]
  constructor
  · rintro ⟨fields, shared?, others, entries, hfields, hshared, hentries, hsize, rfl⟩
    obtain ⟨valids, hvalids, rfl⟩ :=
      (foldlM_addEntry_eq_ok (hothers fields shared? others hfields hshared)).mp hentries
    exact ⟨fields, shared?, others, valids, hfields, hshared, hvalids, hsize, rfl⟩
  · rintro ⟨fields, shared?, others, valids, hfields, hshared, hvalids, hsize, rfl⟩
    exact ⟨fields, shared?, others, ⟨valids⟩, hfields, hshared,
      (foldlM_addEntry_eq_ok (hothers fields shared? others hfields hshared)).mpr
        ⟨valids, hvalids, rfl⟩, hsize, rfl⟩

/-! ## Lists -/

/-- The steps in which a list is validated. -/
theorem validateAt_list {item : Element} {minLength? maxLength? : Option Nat} {value : Value}
    (hreads : mode.Reads value) :
    (list info item minLength? maxLength?).validateAt mode path value = (do
      let items ← info.listItems item path value
      checkLength path minLength? maxLength? items.length
      let valid ← items.zipIdx.mapM fun (value, index) =>
        item.validateAt mode (Path.join path (toString index)) value
      if info.required && mode == .full && valid.isEmpty then
        throw (.invalid path .emptyRequiredList)
      return .seq (← item.finishItems path valid)) := by
  rw [validateAt.eq_def]
  dsimp only
  rw [hreads.not_skipped, if_neg Bool.false_ne_true]

/-- A list is valid step by step: its items, their number, and their valid forms. -/
theorem validateAt_list_eq_ok {item : Element} {minLength? maxLength? : Option Nat}
    {value document : Value} (hp : item.Plain) (hreads : mode.Reads value) :
    (list info item minLength? maxLength?).validateAt mode path value = .ok document ↔
      ∃ items valids, info.listItems item path value = .ok items ∧
        checkLength path minLength? maxLength? items.length = .ok () ∧
        items.zipIdx.mapM (fun (value, index) =>
          item.validateAt mode (Path.join path (toString index)) value) = .ok valids ∧
        (info.required → mode = .full → valids ≠ []) ∧ document = .seq valids := by
  rw [validateAt_list hreads]
  simp only [Outcome.bind_eq_ok]
  constructor
  · rintro ⟨items, hitems, ⟨⟩, hlength, valids, hvalids, h⟩
    split at h
    · cases h
    · rename_i hempty
      rw [finishItems_of_finish hp.finish] at h
      refine ⟨items, valids, hitems, hlength, hvalids, ?_, (Except.ok.inj h).symm⟩
      rintro hrequired rfl rfl
      exact hempty (by simp [hrequired])
  · rintro ⟨items, valids, hitems, hlength, hvalids, hempty, rfl⟩
    refine ⟨items, hitems, (), hlength, valids, hvalids, ?_⟩
    rw [if_neg (by simpa using hempty), finishItems_of_finish hp.finish]
    rfl

/-! ## What validation gives has its form -/

/-- Folding the keys of a raw mapping gives distinct and folded keys, over values with distinct
keys. -/
theorem proper_of_foldKeys {raw fields : OrderedMap Value} (hraw : (Value.map raw).Proper)
    (h : info.foldKeys path raw = .ok fields) :
    fields.Distinct ∧ fields.Folded info.keyCase ∧ ∀ entry ∈ fields.entries, entry.2.Proper := by
  obtain ⟨hd, hfolded, hvalues⟩ := Info.foldKeys_eq_ok h hraw.self
  refine ⟨hd, hfolded, fun entry hentry => ?_⟩
  obtain ⟨key, hkey⟩ := hvalues entry hentry
  exact (hraw.of_field hkey :)

/-- The values that a raw mapping gives a category have distinct and folded keys. -/
theorem categoryFields_eq_ok {value : Value} (hvalue : value.Proper) {fields : OrderedMap Value}
    (h : info.categoryFields path value = .ok fields) :
    fields.Distinct ∧ fields.Folded info.keyCase ∧ ∀ entry ∈ fields.entries, entry.2.Proper := by
  cases value with
  | null =>
    rw [Info.eq_empty_of_categoryFields h]
    simp [OrderedMap.Distinct, OrderedMap.Folded, OrderedMap.keys, OrderedMap.empty]
  | map raw => exact proper_of_foldKeys hvalue h
  | _ => cases h

/-- An entry on top of shared defaults has distinct keys, as both have. -/
theorem proper_withShared {shared? : Option (OrderedMap Value)} {value : Value}
    (hshared : ∀ shared, shared? = some shared → (Value.map shared).Proper)
    (hvalue : value.Proper) : (withShared shared? value).Proper := by
  cases shared? with
  | none => exact hvalue
  | some shared =>
    have hbase := hshared shared rfl
    cases value with
    | null => exact hbase
    | map fields =>
      refine Value.Everywhere.map (OrderedMap.distinct_insertMany hbase.self _) ?_
      intro entry hentry
      rcases OrderedMap.mem_insertMany hentry with hold | ⟨key, hkey⟩
      · exact hbase.of_field hold
      · exact (hvalue.of_field hkey :)
    | _ => exact hvalue

/-- The entries beside shared defaults have distinct keys on top of these, if all entries have. -/
theorem proper_of_takeShared {check : String → Value → Except Failure Value}
    {defaultKey? : Option String} {fields others : OrderedMap Value}
    {shared? : Option (OrderedMap Value)} (hd : fields.Distinct)
    (hproper : ∀ entry ∈ fields.entries, entry.2.Proper)
    (h : takeShared check path defaultKey? fields = .ok (shared?, others))
    {entry : String × Value} (hentry : entry ∈ others.entries) :
    (withShared shared? entry.2).Proper := by
  obtain ⟨hsublist, -, hbase⟩ := takeShared_eq_ok hd h
  refine proper_withShared (fun shared heq => ?_) (hproper entry (hsublist.subset hentry))
  obtain ⟨key, hkey⟩ := hbase shared heq
  exact hproper _ hkey

/-- Only sections have shared defaults. -/
theorem Checked.isKeyed_of_takeShared {item : Element} {minEntries : Nat}
    {defaultKey? : Option String} (hc : (category info item minEntries defaultKey?).Checked)
    {check : String → Value → Except Failure Value} {fields others shared : OrderedMap Value}
    (h : takeShared check path defaultKey? fields = .ok (some shared, others)) : item.isKeyed := by
  cases defaultKey? with
  | none => cases h
  | some key => exact hc.isKeyed

theorem isForm_of_validateAt_category {item : Element} {minEntries : Nat}
    {defaultKey? : Option String}
    (hs : (category info item minEntries defaultKey?).Everywhere Settled)
    (ih : ∀ path value document, value.Proper →
      item.validateAt .full path value = .ok document → item.IsForm document)
    {value document : Value} (hvalue : value.Proper)
    (h : (category info item minEntries defaultKey?).validateAt .full path value = .ok document) :
    (category info item minEntries defaultKey?).IsForm document := by
  have hdistinct : ∀ fields, info.categoryFields path value = .ok fields → fields.Distinct :=
    fun _ hfields => (categoryFields_eq_ok hvalue hfields).1
  obtain ⟨fields, shared?, others, valids, hfields, hshared, hvalids, hsize, rfl⟩ :=
    (validateAt_category_eq_ok hs.entry.self.toPlain (.inl rfl)
      (fun _ => hs.self.category _ _ _ _ rfl) hdistinct).mp h
  obtain ⟨hd, hfolded, hproper⟩ := categoryFields_eq_ok hvalue hfields
  obtain ⟨hsublist, hgone, -⟩ := takeShared_eq_ok hd hshared
  have hkeys : valids.map Prod.fst = others.keys := map_fst_of_entryValid hvalids
  have hothers : ∀ key ∈ others.keys, key ∈ fields.keys := (hsublist.map _).subset
  refine ⟨⟨valids⟩, ⟨?_, ?_, ?_, hsize, ?_⟩, ?_, rfl⟩
  · rw [OrderedMap.Distinct, OrderedMap.keys, hkeys]
    exact hd.sublist (hsublist.map _)
  · intro key hkey
    rw [OrderedMap.keys, hkeys] at hkey
    exact hfolded key (hothers key hkey)
  · intro key hkey
    obtain ⟨valid, hvalid, rfl⟩ := List.mem_map.mp hkey
    obtain ⟨entry, -, hkey, hcheck, -⟩ := Outcome.exists_of_forall₂ hvalids hvalid
    rw [hkey]
    exact (info.checkKey_alike _ "" _ ()).mp hcheck
  · intro key hkey
    rw [OrderedMap.keys, hkeys]
    exact hgone key hkey
  · intro valid hvalid
    obtain ⟨entry, hentry, -, -, hvalidate⟩ := Outcome.exists_of_forall₂ hvalids hvalid
    exact ih _ _ _ (proper_of_takeShared hd hproper hshared hentry) hvalidate

/-- The items that a raw value gives a list have distinct keys, if value and default have. -/
theorem proper_of_listItems {item : Element} {value : Value} (hvalue : value.Proper)
    (hdefault : value = .null → ∀ default, info.default? = some default → default.Proper)
    {items : List Value} (h : info.listItems item path value = .ok items) :
    ∀ value ∈ items, value.Proper := by
  cases value with
  | null =>
    simp only [Info.listItems] at h
    split at h
    · rename_i items hitems
      rw [← Except.ok.inj h]
      exact fun value hitem => (hdefault rfl _ hitems).of_item hitem
    · split at h
      · cases h
      · rw [← Except.ok.inj h]
        simp
  | seq raw =>
    rw [← Except.ok.inj h]
    exact fun value hitem => hvalue.of_item hitem
  | _ =>
    simp only [Info.listItems] at h
    split at h
    · cases h
    · rw [← Except.ok.inj h]
      exact List.forall_mem_singleton.mpr hvalue

theorem isForm_of_validateAt_list {item : Element} {minLength? maxLength? : Option Nat}
    (hs : (list info item minLength? maxLength?).Everywhere Settled)
    (ih : ∀ path value document, value.Proper →
      item.validateAt .full path value = .ok document → item.IsForm document)
    {value document : Value} (hvalue : value.Proper)
    (h : (list info item minLength? maxLength?).validateAt .full path value = .ok document) :
    (list info item minLength? maxLength?).IsForm document := by
  obtain ⟨items, valids, hitems, hlength, hvalids, hfilled, rfl⟩ :=
    (validateAt_list_eq_ok hs.item.self.toPlain (.inl rfl)).mp h
  have hproper := proper_of_listItems hvalue (fun _ => hs.self.proper) hitems
  have hforall := Outcome.forall₂_of_mapM_zipIdx hvalids
  refine ⟨valids, ⟨?_, fun hrequired => hfilled hrequired rfl⟩, ?_, rfl⟩
  · rw [← hforall.length_eq]
    exact (checkLength_alike path "" minLength? maxLength? _ ()).mp hlength
  · intro valid hvalid
    obtain ⟨value, hitem, index, hvalidate⟩ := Outcome.exists_of_forall₂ hforall hvalid
    exact ih _ _ _ (hproper value hitem) hvalidate

/-- A section that is valid on a mapping has its form. -/
theorem isForm_of_validateAt_map {children : List Element} {extraKeys : Bool}
    (hc : (keyed info children extraKeys).Checked)
    (hs : (keyed info children extraKeys).Everywhere Settled)
    (ih : ∀ child ∈ children, ∀ path value document, value.Proper →
      child.validateAt .full path value = .ok document → child.IsForm document)
    {raw : OrderedMap Value} {document : Value} (hraw : (Value.map raw).Proper)
    (h : (keyed info children extraKeys).validateAt .full path (.map raw) = .ok document) :
    (keyed info children extraKeys).IsForm document := by
  obtain ⟨fields, extras, entries, derived, hfields, hextras, hentries, hderived, rfl⟩ :=
    (validateAt_keyed_eq_ok hc (hs.imp fun _ => Settled.toPlain) (.inl rfl)).mp h
  obtain ⟨hd, hfolded, hvalues⟩ := proper_of_foldKeys hraw hfields
  exact isForm_of_sectionFields hc ih hd hfolded hvalues hextras hentries hderived

/-- The keys of a section in its form are distinct and folded. -/
theorem IsForm.fields {children : List Element} {extraKeys : Bool}
    (hc : (keyed info children extraKeys).Checked) {fields : OrderedMap Value}
    (h : (keyed info children extraKeys).IsForm (.map fields)) :
    fields.Distinct ∧ fields.Folded info.keyCase := by
  obtain ⟨entries, derived, extras, hentries, hderived, hextras, heq⟩ := h
  obtain rfl := Value.map.inj heq
  refine fields_of_extraForm hc hextras (?_ : derived.keys.Sublist _)
  rw [keys_of_resolveDerived hentries.keys hderived]

/-- The default of a section is a mapping in the form of the section. -/
theorem exists_map_of_default {children : List Element} {extraKeys : Bool}
    (hc : (keyed info children extraKeys).Checked)
    (hs : (keyed info children extraKeys).Everywhere Settled)
    (ih : ∀ child ∈ children, ∀ path value document, value.Proper →
      child.validateAt .full path value = .ok document → child.IsForm document)
    {default : Value} (hdefault : info.default? = some default) :
    ∃ fields, default = .map fields ∧ (keyed info children extraKeys).IsForm (.map fields) := by
  have hfixed := hs.self.fixed default hdefault
  rw [hs.self.validate] at hfixed
  obtain ⟨_, extras, _, derived, -, -, -, -, rfl⟩ :=
    (validateAt_keyed_eq_ok hc (hs.imp fun _ => Settled.toPlain) (.inl rfl)).mp hfixed
  exact ⟨_, rfl, isForm_of_validateAt_map hc hs ih (hs.self.proper _ hdefault) hfixed⟩

/-- The entries from which a section is validated have distinct and folded keys. -/
theorem sectionFields_eq_ok {children : List Element} {extraKeys : Bool}
    (hc : (keyed info children extraKeys).Checked)
    (hs : (keyed info children extraKeys).Everywhere Settled)
    (ih : ∀ child ∈ children, ∀ path value document, value.Proper →
      child.validateAt .full path value = .ok document → child.IsForm document)
    {value : Value} (hvalue : value.Proper) {fields : OrderedMap Value}
    (h : info.sectionFields path value = .ok fields) :
    fields.Distinct ∧ fields.Folded info.keyCase ∧ ∀ entry ∈ fields.entries, entry.2.Proper := by
  cases value with
  | null =>
    obtain ⟨document, habsent, h⟩ := Outcome.bind_eq_ok.mp h
    obtain rfl := Outcome.pure_eq_ok.mp h
    rcases Info.absent_eq_ok.mp habsent with hsome | ⟨-, -, rfl⟩
    · obtain ⟨fields, rfl, hform⟩ := exists_map_of_default hc hs ih hsome
      exact ⟨(hform.fields hc).1, (hform.fields hc).2, fun entry hentry =>
        (hs.self.proper _ hsome).of_field hentry⟩
    · simp [OrderedMap.Distinct, OrderedMap.Folded, OrderedMap.keys, OrderedMap.empty,
        Value.asMap?]
  | map raw => exact proper_of_foldKeys hvalue h
  | _ => cases h

theorem isForm_of_validateAt_keyed {children : List Element} {extraKeys : Bool}
    (hc : (keyed info children extraKeys).Checked)
    (hs : (keyed info children extraKeys).Everywhere Settled)
    (ih : ∀ child ∈ children, ∀ path value document, value.Proper →
      child.validateAt .full path value = .ok document → child.IsForm document)
    {value document : Value} (hvalue : value.Proper)
    (h : (keyed info children extraKeys).validateAt .full path value = .ok document) :
    (keyed info children extraKeys).IsForm document := by
  obtain ⟨fields, extras, entries, derived, hfields, hextras, hentries, hderived, rfl⟩ :=
    (validateAt_keyed_eq_ok hc (hs.imp fun _ => Settled.toPlain) (.inl rfl)).mp h
  obtain ⟨hd, hfolded, hproper⟩ := sectionFields_eq_ok hc hs ih hvalue hfields
  exact isForm_of_sectionFields hc ih hd hfolded hproper hextras hentries hderived

/-- What validation gives has the form of the element. -/
theorem Settled.isForm {element : Element} (hc : element.Checked)
    (hs : element.Everywhere Settled) {value document : Value} (hvalue : value.Proper)
    (h : element.validateAt .full path value = .ok document) : element.IsForm document := by
  induction element using Element.induction generalizing path value document with
  | scalar info type => exact isForm_of_validateScalar hs h
  | code info => exact isForm_of_validateCode hs h
  | keyed info children extraKeys ih =>
    exact isForm_of_validateAt_keyed hc hs (fun child hchild path value document hvalue h =>
      ih child hchild (hc.child hchild).2.2 (hs.child hchild) hvalue h) hvalue h
  | category info item minEntries defaultKey? ih =>
    exact isForm_of_validateAt_category hs (fun path value document hvalue h =>
      ih hc.entry hs.entry hvalue h) hvalue h
  | list info item minLength? maxLength? ih =>
    exact isForm_of_validateAt_list hs (fun path value document hvalue h =>
      ih hc.item hs.item hvalue h) hvalue h
  | derived info resolve => cases h

end Element

end ConfigSchema
