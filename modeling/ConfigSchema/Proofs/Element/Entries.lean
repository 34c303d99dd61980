import ConfigSchema.Proofs.Element.Derived
import ConfigSchema.Proofs.OrderedMap.Merge

/-!
# Entries and items are kept

Validation puts its results together by insertions and removals, in several loops. Yet no entry of a
document gets lost on the way, none is made up and none is moved, whatever the last steps of its
elements give.

## Main definitions

- `Info.foldedEntries` — the entries of a raw mapping, with their keys in a case
- `Value.givenItems` — the items that a raw value gives a list
- `Element.Keeps` — the entries or items of a document are those of the raw value

## Main statements

- `Element.finishItems_eq_ok` — the last steps of the items of a list, each beside those before it
- `Element.keeps_of_validateAt` — a valid collection keeps what the raw one has
- `Element.keeps_of_validate` — so it is in all parts of a consistent schema
-/

namespace ConfigSchema

/-- The entries of a raw mapping, with their keys in the case that the element asks for. -/
def Info.foldedEntries (info : Info) (raw : OrderedMap Value) : List (String × Value) :=
  raw.entries.map (Prod.map info.keyCase.apply id)

/-- The items that a raw value gives a list. A value that is no sequence is the only item. -/
def Value.givenItems (value : Value) : List Value := value.asSeq?.getD [value]

namespace Element

variable {info : Info} {mode : Mode} {path : String}

/-- A valid document keeps what its raw value has. A section has the declared names in their order,
and then the undeclared entries as they were given. A category has the keys that it starts from, and
then those that were given, but for the key of the shared defaults. A list has an item for each one
that was given: its valid form, after a last step that sees the items before it as they are after
their own last steps. -/
def Keeps (mode : Mode) (path : String) : Element → (value document : Value) → Prop
  | keyed info children _, value, document =>
      ∃ raw declared, value = .map raw ∧ declared.map Prod.fst = children.map key ∧
        document = .map ⟨declared ++ (info.foldedEntries raw).filter fun entry =>
          !children.any (·.isNamed entry.1)⟩
  | category info _ _ defaultKey?, value, document =>
      ∃ raw result, value = .map raw ∧ document = .map result ∧ result.Distinct ∧
        result.keys = (startEntries info mode).keys ++
          ((info.foldedEntries raw).map Prod.fst).filter fun key =>
            key ∉ (startEntries info mode).keys ∧ some key ≠ defaultKey?
  | list _ item _ _, value, document =>
      ∃ valids results : List Value, document = .seq results ∧
        valids.length = value.givenItems.length ∧ results.length = value.givenItems.length ∧
        ∀ index raw, value.givenItems[index]? = some raw → ∃ valid result,
          valids[index]? = some valid ∧ results[index]? = some result ∧
          item.validateAt mode (Path.join path (toString index)) raw = .ok valid ∧
          item.finish (.seq (results.take index ++ valids.drop index)) valid
            (Path.join path (toString index)) = .ok result
  | scalar _ _, _, _ | code _, _, _ | derived _ _, _, _ => True

/-! ## Last steps -/

/-- The last step of an entry keeps the keys, if there is such an entry. -/
theorem keys_finishEntry {element : Element} {fields result : OrderedMap Value} {key : String}
    (hkey : key ∈ fields.keys) (h : element.finishEntry path fields key = .ok result) :
    result.keys = fields.keys := by
  obtain ⟨value, -, h⟩ := Outcome.bind_eq_ok.mp h
  rw [← Outcome.pure_eq_ok.mp h]
  exact OrderedMap.keys_insert_of_mem hkey

/-- The last steps of all entries of a category keep their keys. -/
theorem keys_finishEntries {item : Element} {fields result : OrderedMap Value}
    (h : item.finishEntries path fields = .ok result) : result.keys = fields.keys := by
  refine Outcome.foldlM_invariant (P := fun out => out.keys = fields.keys)
    (fun key hkey out next hout hnext => ?_) rfl h
  exact (keys_finishEntry (hout ▸ hkey) hnext).trans hout

/-- The last steps of children change declared entries only, and keep their keys. -/
theorem finishChildren_eq_ok {children : List Element} {declared extras : List (String × Value)}
    {result : OrderedMap Value} (hkeys : ∀ child ∈ children, child.key ∈ declared.map Prod.fst)
    (h : finishChildren path children ⟨declared ++ extras⟩ = .ok result) :
    ∃ finished, result = ⟨finished ++ extras⟩ ∧ finished.map Prod.fst = declared.map Prod.fst := by
  induction children generalizing declared with
  | nil => exact ⟨declared, (Except.ok.inj h).symm, rfl⟩
  | cons child rest ih =>
    rw [finishChildren, List.foldlM_cons] at h
    obtain ⟨next, hfirst, hrest⟩ := Outcome.bind_eq_ok.mp h
    obtain ⟨value, -, hnext⟩ := Outcome.bind_eq_ok.mp hfirst
    have hchild := hkeys child List.mem_cons_self
    have hsame : (OrderedMap.insertEntry child.key value declared).map Prod.fst =
        declared.map Prod.fst := OrderedMap.map_fst_insertEntry_of_mem hchild
    rw [← Outcome.pure_eq_ok.mp hnext, OrderedMap.insert,
      OrderedMap.insertEntry_append_of_mem hchild] at hrest
    obtain ⟨finished, rfl, hfinished⟩ := ih (fun other hother => by
      rw [hsame]
      exact hkeys other (List.mem_cons_of_mem _ hother)) hrest
    exact ⟨finished, rfl, hfinished.trans hsame⟩

/-- The last step of one item of a list. -/
def finishItem (item : Element) (path : String) (items : List Value) (index : Nat) :
    Except Failure (List Value) := do
  let value := items.getD index .null
  return items.set index
    (← item.finish (.seq items) value (Path.join path (toString index)))

/-- The items behind those that are done go through their last steps one after the other. Each sees
those before it as they are after their own. -/
theorem foldlM_finishItem_eq_ok {item : Element} {pending finished result : List Value}
    (h : (List.range' finished.length pending.length).foldlM (item.finishItem path)
      (finished ++ pending) = .ok result) :
    ∃ results, result = finished ++ results ∧ results.length = pending.length ∧
      ∀ index valid, pending[index]? = some valid → ∃ last, results[index]? = some last ∧
        item.finish (.seq (finished ++ (results.take index ++ pending.drop index))) valid
          (Path.join path (toString (finished.length + index))) = .ok last := by
  induction pending generalizing finished with
  | nil =>
    refine ⟨[], ?_, rfl, by simp⟩
    exact (Except.ok.inj h).symm
  | cons valid rest ih =>
    rw [List.length_cons, List.range'_succ, List.foldlM_cons] at h
    obtain ⟨next, hfirst, hrest⟩ := Outcome.bind_eq_ok.mp h
    obtain ⟨last, hlast, hnext⟩ := Outcome.bind_eq_ok.mp hfirst
    have hvalue : (finished ++ valid :: rest).getD finished.length .null = valid := by simp
    have hset : (finished ++ valid :: rest).set finished.length last =
        (finished ++ [last]) ++ rest := by simp
    rw [hvalue] at hlast
    rw [← Outcome.pure_eq_ok.mp hnext, hset] at hrest
    have hlength : (finished ++ [last]).length = finished.length + 1 := by simp
    rw [← hlength] at hrest
    obtain ⟨results, rfl, hresults, hsteps⟩ := ih hrest
    refine ⟨last :: results, by simp, by simp [hresults], fun index value hvalue => ?_⟩
    cases index with
    | zero =>
      obtain rfl : valid = value := by simpa using hvalue
      exact ⟨last, rfl, hlast⟩
    | succ index =>
      obtain ⟨other, hother, hstep⟩ := hsteps index value hvalue
      refine ⟨other, hother, ?_⟩
      rw [hlength, List.append_assoc] at hstep
      simpa [Nat.add_assoc, Nat.add_comm 1 index] using hstep

/-- The items of a list after their last steps. -/
theorem finishItems_eq_ok {item : Element} {valids results : List Value}
    (h : item.finishItems path valids = .ok results) :
    results.length = valids.length ∧
      ∀ index valid, valids[index]? = some valid → ∃ result, results[index]? = some result ∧
        item.finish (.seq (results.take index ++ valids.drop index)) valid
          (Path.join path (toString index)) = .ok result := by
  have hloop : (List.range' 0 valids.length).foldlM (item.finishItem path) ([] ++ valids) =
      .ok results := by
    rw [← List.range_eq_range']
    exact h
  obtain ⟨_, rfl, hlength, hsteps⟩ := @foldlM_finishItem_eq_ok path item valids [] results hloop
  exact ⟨hlength, by simpa using hsteps⟩

/-! ## What is kept -/

/-- The entries from which a collection is validated are those of its value, which is a mapping. -/
theorem foldedEntries_of_foldKeys {raw fields : OrderedMap Value}
    (h : info.foldKeys path raw = .ok fields) : fields = ⟨info.foldedEntries raw⟩ :=
  Info.eq_of_foldKeys h

theorem keeps_keyed {children : List Element} {extraKeys : Bool}
    (hc : (keyed info children extraKeys).Checked) {value document : Value}
    (hvalue : value.Proper) (hnull : value ≠ .null)
    (h : (keyed info children extraKeys).validateAt mode path value = .ok document) :
    (keyed info children extraKeys).Keeps mode path value document := by
  rw [validateAt_keyed (.inr hnull)] at h
  obtain ⟨fields, hfields, h⟩ := Outcome.bind_eq_ok.mp h
  obtain ⟨extras, hextras, h⟩ := Outcome.bind_eq_ok.mp h
  obtain ⟨entries, hentries, h⟩ := Outcome.bind_eq_ok.mp h
  obtain ⟨derived, hderived, h⟩ := Outcome.bind_eq_ok.mp h
  obtain ⟨final, hfinal, h⟩ := Outcome.bind_eq_ok.mp h
  obtain rfl := Outcome.pure_eq_ok.mp h
  cases value with
  | null => exact absurd rfl hnull
  | map raw =>
    have hdistinct := (proper_of_foldKeys hvalue hfields).1
    obtain rfl := foldedEntries_of_foldKeys hfields
    -- the declared entries come first, and the undeclared ones are appended
    have hnames := map_fst_validateChildren hentries
    have hnodup : (entries.map Prod.fst).Nodup := by
      rw [hnames]
      exact hc.nodup_keys
    rw [OrderedMap.ofList_of_nodup hnodup] at hderived
    have hkeys : derived.entries.map Prod.fst = children.map key :=
      keys_of_resolveDerived hnames hderived
    have hnew := not_mem_of_undeclaredEntries hc hextras
    obtain ⟨rfl, -⟩ := undeclaredEntries_eq_ok.mp hextras
    have happend := OrderedMap.insertMany_of_disjoint (m := derived)
      (hdistinct.sublist (List.filter_sublist.map _)) (fun name hname => by
        rw [OrderedMap.keys, hkeys]
        exact hnew name hname)
    rw [happend] at hfinal
    obtain ⟨finished, rfl, hfinished⟩ := finishChildren_eq_ok (fun child hchild => by
      rw [hkeys]
      exact List.mem_map_of_mem hchild) hfinal
    exact ⟨raw, finished, rfl, hfinished.trans hkeys, rfl⟩
  | _ => cases hfields

/-- Adding entries keeps the keys that are there, and appends those that are new. -/
theorem keys_foldlM_addEntry {item : Element} {shared? : Option (OrderedMap Value)}
    {others start result : OrderedMap Value} (hd : others.Distinct)
    (h : others.entries.foldlM (addEntry info item mode path shared?) start = .ok result) :
    result.keys = start.keys ++ others.keys.filter fun key => !start.contains key := by
  -- the keys are those of a loop that only inserts
  have hkeys : ∀ (entries : List (String × Value)) (out base : OrderedMap Value),
      out.keys = base.keys →
      entries.foldlM (addEntry info item mode path shared?) out = .ok result →
      result.keys = (base.insertMany entries).keys := by
    intro entries
    induction entries with
    | nil =>
      intro out base hout h
      rw [← Except.ok.inj h, hout]
      rfl
    | cons entry rest ih =>
      intro out base hout h
      rw [List.foldlM_cons] at h
      obtain ⟨next, hfirst, hrest⟩ := Outcome.bind_eq_ok.mp h
      obtain ⟨valid, -, rfl⟩ := addEntry_eq_ok hfirst
      exact ih _ _ (OrderedMap.keys_insert_congr hout entry.1 _ entry.2) hrest
  rw [hkeys others.entries start start rfl h, OrderedMap.keys_insertMany start hd]

/-- The key of the shared defaults is taken out of a category. -/
theorem keys_takeShared {check : String → Value → Except Failure Value}
    {defaultKey? : Option String} {fields others : OrderedMap Value}
    {shared? : Option (OrderedMap Value)} (hd : fields.Distinct)
    (h : takeShared check path defaultKey? fields = .ok (shared?, others)) :
    others.keys = fields.keys.filter fun key => some key ≠ defaultKey? := by
  cases defaultKey? with
  | none =>
    obtain ⟨-, rfl⟩ := Prod.mk.inj (Except.ok.inj h)
    simp
  | some defaultKey =>
    obtain ⟨rfl, -⟩ := takeShared_eq_ok_iff.mp h
    rw [OrderedMap.keys_erase hd]
    simp

theorem distinct_startEntries {item : Element} {minEntries : Nat} {defaultKey? : Option String}
    (hdefault : (category info item minEntries defaultKey?).HasProperDefault) :
    (startEntries info mode).Distinct := by
  rw [startEntries]
  split
  · exact hdefault.distinct_defaultFields
  · exact List.nodup_nil

theorem keeps_category {item : Element} {minEntries : Nat} {defaultKey? : Option String}
    (hdefault : (category info item minEntries defaultKey?).HasProperDefault)
    {value document : Value} (hvalue : value.Proper) (hnull : value ≠ .null)
    (h : (category info item minEntries defaultKey?).validateAt mode path value = .ok document) :
    (category info item minEntries defaultKey?).Keeps mode path value document := by
  rw [validateAt_category (.inr hnull)] at h
  obtain ⟨fields, hfields, h⟩ := Outcome.bind_eq_ok.mp h
  obtain ⟨⟨shared?, others⟩, hshared, h⟩ := Outcome.bind_eq_ok.mp h
  obtain ⟨entries, hentries, h⟩ := Outcome.bind_eq_ok.mp h
  split at h
  · cases h
  obtain ⟨final, hfinal, h⟩ := Outcome.bind_eq_ok.mp h
  obtain rfl := Outcome.pure_eq_ok.mp h
  cases value with
  | null => exact absurd rfl hnull
  | map raw =>
    have hdistinct := (proper_of_foldKeys hvalue hfields).1
    obtain rfl := foldedEntries_of_foldKeys hfields
    have hothers := (takeShared_eq_ok hdistinct hshared).1
    have hkeys := keys_foldlM_addEntry (hdistinct.sublist (hothers.map _)) hentries
    have hfinalKeys := keys_finishEntries hfinal
    refine ⟨raw, final, rfl, rfl, ?_, ?_⟩
    · rw [OrderedMap.Distinct, hfinalKeys]
      exact distinct_of_foldlM_addEntry (distinct_startEntries hdefault) hentries
    · rw [hfinalKeys, hkeys, keys_takeShared hdistinct hshared, List.filter_filter]
      congr 1
      refine List.filter_congr fun key _ => ?_
      have hcontains : (startEntries info mode).contains key =
          decide (key ∈ (startEntries info mode).keys) := by
        rw [Bool.eq_iff_iff, OrderedMap.contains_iff, decide_eq_true_iff]
      simp only [hcontains, Bool.decide_and, decide_not]
  | _ => cases hfields

/-- The items that a list is validated from are those that are given. -/
theorem eq_givenItems {item : Element} {value : Value} (hnull : value ≠ .null) {items : List Value}
    (h : info.listItems item path value = .ok items) : items = value.givenItems := by
  cases value with
  | null => exact absurd rfl hnull
  | seq given => exact (Except.ok.inj h).symm
  | _ =>
    simp only [Info.listItems] at h
    split at h
    · cases h
    · exact (Except.ok.inj h).symm

theorem keeps_list {item : Element} {minLength? maxLength? : Option Nat} {value document : Value}
    (hnull : value ≠ .null)
    (h : (list info item minLength? maxLength?).validateAt mode path value = .ok document) :
    (list info item minLength? maxLength?).Keeps mode path value document := by
  rw [validateAt_list (.inr hnull)] at h
  obtain ⟨items, hitems, h⟩ := Outcome.bind_eq_ok.mp h
  obtain ⟨_, -, h⟩ := Outcome.bind_eq_ok.mp h
  obtain ⟨valids, hvalids, h⟩ := Outcome.bind_eq_ok.mp h
  split at h
  · cases h
  obtain ⟨results, hresults, h⟩ := Outcome.bind_eq_ok.mp h
  obtain rfl := Outcome.pure_eq_ok.mp h
  obtain rfl := eq_givenItems hnull hitems
  obtain ⟨hlength, hvalid⟩ := List.forall₂_iff_get.mp (Outcome.mapM_eq_ok.mp hvalids)
  obtain ⟨hkept, hlast⟩ := finishItems_eq_ok hresults
  rw [List.length_zipIdx] at hlength
  refine ⟨valids, results, rfl, hlength.symm, hkept.trans hlength.symm, fun index raw hraw => ?_⟩
  obtain ⟨hindex, rfl⟩ := List.getElem?_eq_some_iff.mp hraw
  obtain ⟨result, hresult, hfinish⟩ := hlast index valids[index] (List.getElem?_eq_getElem _)
  refine ⟨valids[index], result, List.getElem?_eq_getElem _, hresult, ?_, hfinish⟩
  simpa using hvalid index (by simpa using hindex) (by rwa [← hlength])

/-- A valid collection keeps the entries or the items of its raw value. -/
theorem keeps_of_validateAt {part : Element} (hc : part.Checked) (hdefault : part.HasProperDefault)
    {value document : Value} (hvalue : value.Proper) (hnull : value ≠ .null)
    (h : part.validateAt mode path value = .ok document) : part.Keeps mode path value document := by
  cases part with
  | keyed info children extraKeys => exact keeps_keyed hc hvalue hnull h
  | category info item minEntries defaultKey? => exact keeps_category hdefault hvalue hnull h
  | list info item minLength? maxLength? => exact keeps_list hnull h
  | _ => trivial

/-- Validation of a consistent schema neither loses nor invents nor moves entries, in whichever part
of the schema and whatever its last steps give. The document as a whole goes through the last step
of the schema after that. -/
theorem keeps_of_validate {schema : Element} (hcheck : schema.check = .ok ())
    (hdefaults : schema.Everywhere HasProperDefault) (mode : Mode) :
    (∀ part : Element, part.Within schema → ∀ path value document, value.Proper → value ≠ .null →
        part.validateAt mode path value = .ok document → part.Keeps mode path value document) ∧
      ∀ value document, value.Proper → value ≠ .null → schema.validate mode value = .ok document →
        ∃ valid, schema.Keeps mode "" value valid ∧
          schema.finish .null valid "" = .ok document := by
  have hparts : ∀ part : Element, part.Within schema → ∀ path value document, value.Proper →
      value ≠ .null → part.validateAt mode path value = .ok document →
      part.Keeps mode path value document := fun part hpart path value document hvalue hnull h =>
    keeps_of_validateAt (Checked.within ⟨"", false, hcheck⟩ hpart) (hdefaults part hpart) hvalue
      hnull h
  refine ⟨hparts, fun value document hvalue hnull h => ?_⟩
  obtain ⟨valid, hvalid, hfinish⟩ := Outcome.bind_eq_ok.mp h
  exact ⟨valid, hparts schema .self "" value valid hvalue hnull hvalid, hfinish⟩

/-- A program of talks, by room, with speakers who are all greeted. -/
def program : Element :=
  let greeted : Value → Value
    | .str name => .str (name ++ "!")
    | value => value
  .keyed { keyCase := .lower } [
    .list { name? := some "speakers" }
      (.scalar { finish? := some fun _ speaker => .ok (greeted speaker) } .str) none none,
    .category
      { name? := some "rooms"
        keyCase := .lower
        default? := some (.map ⟨[("hall", .str "opening")]⟩) } (.scalar {} .str) 0 none,
    .derived { name? := some "place" } fun _ => .ok (.str "Oslo")] true

def programRaw : Value := .map ⟨[
  ("Year", .int 2024),
  ("Rooms", .map ⟨[("Attic", .str "yoga"), ("HALL", .str "closing")]⟩),
  ("Speakers", .seq [.str "Ada", .str "Kurt"])]⟩

/-- Greetings change the speakers, and nothing gets lost. -/
theorem keeps_program : ∃ document,
    program.validate .full programRaw = .ok document ∧
      program.Keeps .full "" programRaw document ∧
      document = .map ⟨[
        ("speakers", .seq [.str "Ada!", .str "Kurt!"]),
        ("rooms", .map ⟨[("hall", .str "closing"), ("attic", .str "yoga")]⟩),
        ("place", .str "Oslo"),
        ("year", .int 2024)]⟩ := by
  have hproper : programRaw.Proper := by
    simp [programRaw, OrderedMap.Distinct, OrderedMap.keys]
  have hdefaults : program.Everywhere HasProperDefault := by
    rw [program, Everywhere.keyed_iff]
    refine ⟨.of_none rfl, ?_⟩
    simp only [List.forall_mem_cons, Everywhere.list_iff, Everywhere.category_iff,
      Everywhere.scalar_iff, Everywhere.derived_iff]
    refine ⟨⟨.of_none rfl, .of_none rfl⟩, ⟨⟨fun default hdefault => ?_⟩, .of_none rfl⟩,
      .of_none rfl, by simp⟩
    obtain rfl := Option.some.inj hdefault
    simp [OrderedMap.Distinct, OrderedMap.keys]
  have hvalid : program.validate .full programRaw = .ok _ := rfl
  have hcheck : program.check = .ok () := rfl
  obtain ⟨-, hkept⟩ := keeps_of_validate hcheck hdefaults .full
  obtain ⟨valid, hkeeps, hfinish⟩ :=
    hkept programRaw _ hproper (by simp [programRaw]) hvalid
  refine ⟨_, hvalid, ?_, rfl⟩
  rwa [← Except.ok.inj hfinish]

end Element

end ConfigSchema
