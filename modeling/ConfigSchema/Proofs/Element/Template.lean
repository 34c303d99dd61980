import ConfigSchema.Proofs.Element.Default
import ConfigSchema.Proofs.Element.Dumped
import ConfigSchema.Proofs.Element.Overlay

/-!
# Templates are layers

A template is written from the schema alone: the defaults, nothing for what has none, and one item
in each list. It is read back, and it is valid as a layer exactly if the schema allows what the
writer puts in: one item in a list that has no default, and no entries in a category that has none.

The writer looks up the declared entries of a default under their own names. So a default has to
spell these names as they are declared, or the entry is written twice.

## Main definitions

- `Element.Accepts` — a value is valid as a layer
- `LayerSection` — what a section asks of a layer
- `Element.Fits` — the schema allows what the writer puts in

## Main statements

- `Element.accepts_keyed_iff`, `Element.accepts_category_iff`, `Element.accepts_list_iff` — when a
  collection accepts what is given
- `Element.accepts_dumped_iff` — when what is written of a layer or a template is accepted
- `Element.exists_template` — a template is read back, and when it is valid as a layer
-/

namespace ConfigSchema.Element

variable {info : Info} {opts : DumpOptions} {path : String} {children : List Element}
  {extraKeys : Bool}

/-- The value is valid as a layer, but for the last step of the element. -/
def Accepts (element : Element) (value : Value) : Prop :=
  ∃ layer, element.validateAt .layer "" value = .ok layer

theorem accepts_of_validateAt {element : Element} {value layer : Value}
    (h : element.validateAt .layer path value = .ok layer) : element.Accepts value :=
  ⟨layer, (element.validateAt_alike .layer path "" value layer).mp h⟩

theorem accepts_null (element : Element) : element.Accepts .null :=
  ⟨.null, validateAt_layer_null element ""⟩

theorem Accepts.exists_layer {element : Element} {value : Value} (h : element.Accepts value)
    (path : String) : ∃ layer, element.validateAt .layer path value = .ok layer := by
  obtain ⟨layer, hlayer⟩ := h
  exact ⟨layer, (element.validateAt_alike .layer "" path value layer).mp hlayer⟩

/-- The default of a consistent element is accepted. -/
theorem Checked.accepts_default {element : Element} (hc : element.Checked) {default : Value}
    (hdefault : element.info.default? = some default) : element.Accepts default := by
  obtain ⟨path, layer, hlayer⟩ := hc.valid_default hdefault
  exact accepts_of_validateAt hlayer

/-! ## Sections -/

/-- What a section asks of a layer: no two keys become one, all are declared unless others are
allowed, and each child accepts what is under its name. -/
structure LayerSection (info : Info) (children : List Element) (extraKeys : Bool)
    (fields : OrderedMap Value) : Prop where
  apart : ∀ k ∈ fields.keys, ∀ l ∈ fields.keys,
    info.keyCase.apply k = info.keyCase.apply l → k = l
  declared : extraKeys ∨ ∀ k ∈ fields.keys, info.keyCase.apply k ∈ children.map key
  valid : ∀ k value, fields.get? k = some value → ∀ child ∈ children,
    info.keyCase.apply k = child.key → child.Accepts value

theorem resolveDerived_of_plain {entries : OrderedMap Value}
    (h : ∀ child ∈ children, child.isDerived = false) :
    resolveDerived path entries children = .ok entries := by
  induction children with
  | nil => rfl
  | cons child rest ih =>
    have hrest := ih fun other hother => h other (List.mem_cons_of_mem _ hother)
    cases child with
    | derived => cases h _ List.mem_cons_self
    | _ => exact hrest

theorem exists_validateChildren {fields : OrderedMap Value} {mode : Mode}
    (hplain : ∀ child ∈ children, child.isDerived = false)
    (h : ∀ child ∈ children, ∃ valid, child.validateAt mode (Path.join path child.key)
      ((fields.get? child.key).getD .null) = .ok valid) :
    ∃ entries, validateChildren children mode path fields = .ok entries := by
  induction children with
  | nil => exact ⟨[], rfl⟩
  | cons child rest ih =>
    obtain ⟨valid, hvalid⟩ := h child List.mem_cons_self
    obtain ⟨more, hmore⟩ := ih (fun other hother => hplain other (List.mem_cons_of_mem _ hother))
      fun other hother => h other (List.mem_cons_of_mem _ hother)
    refine ⟨_, validateChildren_cons_eq_ok.mpr ⟨valid, more, ?_, hmore, rfl⟩⟩
    rwa [if_neg (by simp [hplain child List.mem_cons_self])]

/-- A section accepts just the mappings that meet what it asks of a layer. -/
theorem accepts_keyed_iff (hc : (keyed info children extraKeys).Checked)
    (hp : (keyed info children extraKeys).Everywhere Plain)
    (hplain : ∀ child ∈ children, child.isDerived = false) {fields : OrderedMap Value}
    (hd : fields.Distinct) :
    (keyed info children extraKeys).Accepts (.map fields) ↔
      LayerSection info children extraKeys fields := by
  have hfold : ∀ folded, info.foldKeys "" fields = .ok folded ↔
      (fields.keys.map info.keyCase.apply).Nodup ∧
        folded = ⟨fields.entries.map (Prod.map info.keyCase.apply id)⟩ :=
    fun folded => Info.foldKeys_eq_ok_iff hd
  let folded : OrderedMap Value := ⟨fields.entries.map (Prod.map info.keyCase.apply id)⟩
  have hkeys : folded.keys = fields.keys.map info.keyCase.apply := by
    simp [folded, OrderedMap.keys]
  constructor
  · rintro ⟨layer, hlayer⟩
    obtain ⟨folded, extras, hfolded, hextras, hchildren⟩ := exists_of_layer_map hlayer
    obtain ⟨hnodup, rfl⟩ := (hfold _).mp hfolded
    refine ⟨fun k hk l hl => List.inj_on_of_nodup_map hnodup hk hl, ?_, ?_⟩
    · obtain ⟨rfl, hallowed⟩ := undeclaredEntries_eq_ok.mp hextras
      refine hallowed.imp_right fun hnone k hk => ?_
      obtain ⟨entry, hentry, rfl⟩ := List.mem_map.mp hk
      rw [← any_isNamed_iff hc]
      simpa using List.filter_eq_nil_iff.mp hnone _ (List.mem_map_of_mem hentry)
    · intro k value hvalue child hchild hkey
      obtain ⟨q, valid, hvalid⟩ := hchildren child hchild (hplain child hchild)
      have hget : folded.get? child.key = some value :=
        OrderedMap.lookup_of_mem (by rwa [← OrderedMap.keys, hkeys])
          (hkey ▸ List.mem_map_of_mem (OrderedMap.mem_of_lookup hvalue))
      rw [hget] at hvalid
      exact accepts_of_validateAt hvalid
  · rintro ⟨hapart, hdeclared, hvalid⟩
    have hnodup : (fields.keys.map info.keyCase.apply).Nodup := hd.map_on hapart
    have hallowed : extraKeys ∨
        folded.entries.filter (fun entry => !children.any (·.isNamed entry.1)) = [] := by
      refine hdeclared.imp_right fun hall => List.filter_eq_nil_iff.mpr fun entry hentry => ?_
      obtain ⟨raw, hraw, rfl⟩ := List.mem_map.mp hentry
      have hname := (any_isNamed_iff hc _).mpr (hall raw.1 (List.mem_map_of_mem hraw))
      simpa using hname
    obtain ⟨entries, hentries⟩ : ∃ entries,
        validateChildren children .layer "" folded = .ok entries := by
      refine exists_validateChildren hplain fun child hchild => ?_
      cases hget : folded.get? child.key with
      | none => exact ⟨.null, validateAt_layer_null child _⟩
      | some value =>
        obtain ⟨entry, hentry, heq⟩ := List.mem_map.mp (OrderedMap.mem_of_lookup hget)
        obtain ⟨hkey, rfl⟩ := Prod.mk.inj heq
        exact (hvalid entry.1 entry.2 (OrderedMap.lookup_of_mem hd hentry) child hchild
          hkey).exists_layer _
    exact ⟨_, (validateAt_keyed_eq_ok hc hp (.inr (by simp))).mpr ⟨folded, _, entries, ⟨entries⟩,
      (hfold _).mpr ⟨hnodup, rfl⟩, undeclaredEntries_eq_ok.mpr ⟨rfl, hallowed⟩, hentries,
      resolveDerived_of_plain hplain, rfl⟩⟩

theorem accepts_emptyMap_keyed (hc : (keyed info children extraKeys).Checked)
    (hp : (keyed info children extraKeys).Everywhere Plain)
    (hplain : ∀ child ∈ children, child.isDerived = false) :
    (keyed info children extraKeys).Accepts .emptyMap := by
  refine (accepts_keyed_iff hc hp hplain Value.Proper.emptyMap.self).mpr ⟨?_, .inr ?_, ?_⟩
  all_goals simp [OrderedMap.empty, OrderedMap.keys, OrderedMap.get?]

/-- Under a key that is in both mappings a section is asked for what is on top. -/
theorem LayerSection.overlay {base fields : OrderedMap Value} (hd : fields.Distinct)
    (h : LayerSection info children extraKeys (base.insertMany fields.entries)) :
    LayerSection info children extraKeys fields := by
  have hmem : ∀ k ∈ fields.keys, k ∈ (base.insertMany fields.entries).keys := by
    intro k hk
    obtain ⟨value, hvalue⟩ := Option.isSome_iff_exists.mp ((fields.get?_isSome_iff k).mpr hk)
    rw [← OrderedMap.get?_isSome_iff, OrderedMap.get?_insertMany base hd, hvalue]
    rfl
  refine ⟨fun k hk l hl => h.apart k (hmem k hk) l (hmem l hl),
    h.declared.imp_right fun hall k hk => hall k (hmem k hk), fun k value hvalue => ?_⟩
  refine h.valid k value ?_
  rw [OrderedMap.get?_insertMany base hd, hvalue, Option.some_or]

/-- Two mappings that a section accepts can be put on top of each other if no two of their keys
become one. -/
theorem LayerSection.insertMany {base fields : OrderedMap Value} (hd : fields.Distinct)
    (hbase : LayerSection info children extraKeys base)
    (h : LayerSection info children extraKeys fields)
    (hapart : ∀ k l, k ∈ base.keys ∨ k ∈ fields.keys → l ∈ base.keys ∨ l ∈ fields.keys →
      info.keyCase.apply k = info.keyCase.apply l → k = l) :
    LayerSection info children extraKeys (base.insertMany fields.entries) := by
  have hmem : ∀ k ∈ (base.insertMany fields.entries).keys, k ∈ base.keys ∨ k ∈ fields.keys := by
    intro k hk
    rw [OrderedMap.keys_insertMany base hd] at hk
    exact (List.mem_append.mp hk).imp_right fun hk => (List.mem_filter.mp hk).1
  refine ⟨fun k hk l hl => hapart k l (hmem k hk) (hmem l hl), ?_, fun k value hvalue => ?_⟩
  · rcases hbase.declared with hextra | hall
    · exact .inl hextra
    · rcases h.declared with hextra | hall'
      · exact .inl hextra
      · exact .inr fun k hk => (hmem k hk).elim (hall k) (hall' k)
  · rw [OrderedMap.get?_insertMany base hd] at hvalue
    rcases Option.or_eq_some_iff.mp hvalue with hupper | ⟨-, hlower⟩
    · exact h.valid k value hupper
    · exact hbase.valid k value hlower

/-! ## What is written of a section -/

/-- The mapping that is written of a section. -/
abbrev dumpedFields (children : List Element) (opts : DumpOptions) (fields : OrderedMap Value) :
    OrderedMap Value :=
  ⟨dumpedEntries children opts fields ++ undeclared children fields⟩

/-- The mapping spells the names of the children that are written as they are declared. -/
def Spells (info : Info) (children : List Element) (opts : DumpOptions)
    (fields : OrderedMap Value) : Prop :=
  ∀ k ∈ fields.keys, ∀ child ∈ children, child.isOmitted opts (fields.get? child.key) = false →
    info.keyCase.apply k = child.key → k = child.key

/-- A key that is written is one of the mapping, or the name of a child that the mapping lacks. -/
theorem mem_keys_dumpedFields {fields : OrderedMap Value} {k : String}
    (h : k ∈ (dumpedFields children opts fields).keys) :
    k ∈ fields.keys ∨ ∃ child ∈ children, k = child.key ∧ fields.get? child.key = none ∧
      child.isOmitted opts none = false := by
  obtain ⟨entry, hentry, rfl⟩ := List.mem_map.mp h
  rcases List.mem_append.mp hentry with hdeclared | hextra
  · obtain ⟨child, hchild, hshown, rfl⟩ := mem_dumpedEntries.mp hdeclared
    cases hget : fields.get? child.key with
    | none => exact .inr ⟨child, hchild, rfl, hget, hget ▸ hshown⟩
    | some value => exact .inl ((fields.get?_isSome_iff _).mp (by rw [hget]; rfl))
  · exact .inl (List.mem_map_of_mem (mem_undeclared.mp hextra).1)

/-- No two keys that are written of some mappings become one, if no two keys of the mappings do and
all mappings spell the names of children as they are declared. -/
theorem apart_dumpedFields (hc : (keyed info children extraKeys).Checked)
    (maps : List (OrderedMap Value))
    (hapart : ∀ k l, (∃ m ∈ maps, k ∈ m.keys) → (∃ m ∈ maps, l ∈ m.keys) →
      info.keyCase.apply k = info.keyCase.apply l → k = l)
    (hspells : ∀ m ∈ maps, Spells info children opts m) {k l : String}
    (hk : ∃ m ∈ maps, k ∈ (dumpedFields children opts m).keys)
    (hl : ∃ m ∈ maps, l ∈ (dumpedFields children opts m).keys)
    (heq : info.keyCase.apply k = info.keyCase.apply l) : k = l := by
  have hfold : ∀ child ∈ children, info.keyCase.apply child.key = child.key := fun _ =>
    hc.apply_key
  -- a key that becomes the name of a child that one of the mappings lacks is this name
  have hname : ∀ child ∈ children, child.isOmitted opts none = false →
      ∀ k, (∃ m ∈ maps, k ∈ m.keys) → info.keyCase.apply k = child.key → k = child.key := by
    rintro child hchild hshown k ⟨m, hm, hkey⟩ hk
    cases hget : m.get? child.key with
    | none => exact hspells m hm k hkey child hchild (hget ▸ hshown) hk
    | some value =>
      refine hapart k child.key ⟨m, hm, hkey⟩ ⟨m, hm, ?_⟩ (hk.trans (hfold child hchild).symm)
      exact (m.get?_isSome_iff _).mp (by rw [hget]; rfl)
  obtain ⟨m, hm, hk⟩ := hk
  obtain ⟨n, hn, hl⟩ := hl
  rcases mem_keys_dumpedFields hk with hk | ⟨child, hchild, rfl, -, hshown⟩
  · rcases mem_keys_dumpedFields hl with hl | ⟨child, hchild, rfl, -, hshown⟩
    · exact hapart k l ⟨m, hm, hk⟩ ⟨n, hn, hl⟩ heq
    · exact hname child hchild hshown k ⟨m, hm, hk⟩ (heq.trans (hfold child hchild))
  · rcases mem_keys_dumpedFields hl with hl | ⟨child', hchild', rfl, -, -⟩
    · exact (hname child hchild hshown l ⟨n, hn, hl⟩
        (heq.symm.trans (hfold child hchild))).symm
    · rwa [hfold child hchild, hfold child' hchild'] at heq

/-- What is written of a mapping that a section accepts meets what the section asks of a layer. -/
theorem layerSection_dumpedFields (hc : (keyed info children extraKeys).Checked)
    {fields : OrderedMap Value} (hd : fields.Distinct)
    (h : LayerSection info children extraKeys fields)
    (hspells : Spells info children opts fields)
    (hchildren : ∀ child ∈ children, child.isOmitted opts (fields.get? child.key) = false →
      child.Accepts (child.dumped opts (fields.get? child.key))) :
    LayerSection info children extraKeys (dumpedFields children opts fields) := by
  have hfold : ∀ child ∈ children, info.keyCase.apply child.key = child.key := fun _ =>
    hc.apply_key
  refine ⟨fun k hk l hl => ?_, ?_, fun k value hvalue child hchild hkey => ?_⟩
  · refine apart_dumpedFields hc [fields] (fun k l hk hl => ?_) ?_
      ⟨_, List.mem_singleton.mpr rfl, hk⟩ ⟨_, List.mem_singleton.mpr rfl, hl⟩
    · exact h.apart k (by simpa using hk) l (by simpa using hl)
    · simpa using hspells
  · refine h.declared.imp_right fun hall k hk => ?_
    rcases mem_keys_dumpedFields hk with hk | ⟨child, hchild, rfl, -, -⟩
    · exact hall k hk
    · rw [hfold child hchild]
      exact List.mem_map_of_mem hchild
  · rcases List.mem_append.mp (OrderedMap.mem_of_lookup hvalue) with hdeclared | hextra
    · obtain ⟨other, hother, hshown, heq⟩ := mem_dumpedEntries.mp hdeclared
      obtain ⟨rfl, rfl⟩ := Prod.mk.inj heq
      rw [hfold other hother] at hkey
      obtain rfl : other = child := List.inj_on_of_nodup_map hc.nodup_keys hother hchild hkey
      exact hchildren other hother hshown
    · exact h.valid k value (OrderedMap.lookup_of_mem hd (mem_undeclared.mp hextra).1) child hchild
        hkey

/-- If what is written of a mapping meets what a section asks of a layer, the mapping spells the
names of the children that are written as they are declared. Otherwise such a name is written
twice. -/
theorem spells_of_layerSection (hc : (keyed info children extraKeys).Checked)
    {fields : OrderedMap Value}
    (h : LayerSection info children extraKeys (dumpedFields children opts fields)) :
    Spells info children opts fields := by
  have hfold : ∀ child ∈ children, info.keyCase.apply child.key = child.key := fun _ =>
    hc.apply_key
  intro k hk child hchild hshown heq
  have hwritten : child.key ∈ (dumpedFields children opts fields).keys :=
    List.mem_map.mpr ⟨(child.key, _), List.mem_append_left _
      (mem_dumpedEntries.mpr ⟨child, hchild, hshown, rfl⟩), rfl⟩
  by_cases hdeclared : k ∈ children.map key
  · obtain ⟨other, hother, rfl⟩ := List.mem_map.mp hdeclared
    rwa [hfold other hother] at heq
  · obtain ⟨entry, hentry, rfl⟩ := List.mem_map.mp hk
    have hundeclared : entry ∈ undeclared children fields := by
      rw [mem_undeclared, ← Bool.not_eq_true, any_isNamed_iff hc]
      exact ⟨hentry, hdeclared⟩
    exact h.apart entry.1 (List.mem_map_of_mem (List.mem_append_right _ hundeclared)) child.key
      hwritten (heq.trans (hfold child hchild).symm)

/-! ## What the writer puts in -/

/-- The schema allows what is written of an element: the names of children are spelled as they are
declared, and where nothing is given, a category without a default needs no entries and a list
without a default allows one item. -/
def Fits (opts : DumpOptions) : Element → Option Value → Prop
  | keyed info children _, value? => ∀ fields, info.writtenFields? value? = some fields →
      Spells info children opts fields
  | category info _ minEntries _, none => info.default?.bind Value.asMap? = none → minEntries = 0
  | list info _ minLength? maxLength?, none => info.default?.bind Value.asSeq? = none →
      (∀ least, minLength? = some least → least ≤ 1) ∧ ∀ most, maxLength? = some most → 1 ≤ most
  | _, _ => True

/-! ## Entries of categories -/

variable {item : Element} {minEntries : Nat} {defaultKey? : Option String}

/-- What is written of an entry is accepted on top of what is written of the shared defaults. -/
theorem accepts_insertMany_dumped (hc : (keyed info children extraKeys).Checked)
    (hp : (keyed info children extraKeys).Everywhere Plain)
    (hplain : ∀ child ∈ children, child.isDerived = false) {shared fields : OrderedMap Value}
    (hshared : shared.Distinct) (hfields : fields.Distinct)
    (h : (keyed info children extraKeys).Accepts (.map (shared.insertMany fields.entries)))
    (hspells : Spells info children opts shared) (hspells' : Spells info children opts fields)
    (hdumped : (keyed info children extraKeys).Accepts (.map (dumpedFields children opts shared)))
    (hdumped' : (keyed info children extraKeys).Accepts
      (.map (dumpedFields children opts fields))) :
    (keyed info children extraKeys).Accepts (.map ((dumpedFields children opts shared).insertMany
      (dumpedFields children opts fields).entries)) := by
  have hmerged := OrderedMap.distinct_insertMany hshared fields.entries
  have hwritten := distinct_dumped hc opts hshared
  have hwritten' := distinct_dumped hc opts hfields
  have hsection := (accepts_keyed_iff hc hp hplain hmerged).mp h
  have hmem : ∀ k, (∃ m ∈ [shared, fields], k ∈ m.keys) →
      k ∈ (shared.insertMany fields.entries).keys := by
    intro k hk
    rw [← OrderedMap.get?_isSome_iff, OrderedMap.get?_insertMany shared hfields, Option.isSome_or,
      Bool.or_eq_true, OrderedMap.get?_isSome_iff, OrderedMap.get?_isSome_iff]
    simpa [or_comm] using hk
  refine (accepts_keyed_iff hc hp hplain (OrderedMap.distinct_insertMany hwritten _)).mpr
    (LayerSection.insertMany hwritten' ((accepts_keyed_iff hc hp hplain hwritten).mp hdumped)
      ((accepts_keyed_iff hc hp hplain hwritten').mp hdumped') fun k l hk hl => ?_)
  refine apart_dumpedFields hc [shared, fields]
    (fun k l hk hl => hsection.apart k (hmem k hk) l (hmem l hl)) ?_ (by simpa using hk)
    (by simpa using hl)
  simp [hspells, hspells']

/-- Shared defaults stand in the category as a mapping that has been checked. -/
theorem takeShared_eq_some {check : String → Value → Except Failure Value}
    {fields others shared : OrderedMap Value}
    (h : takeShared check path defaultKey? fields = .ok (some shared, others)) :
    ∃ key layer, defaultKey? = some key ∧ fields.get? key = some (.map shared) ∧
      check (Path.join path key) (.map shared) = .ok layer := by
  cases defaultKey? with
  | none => cases h
  | some key =>
    obtain ⟨-, ⟨hnone, -⟩ | ⟨found, layer, hfound, hget, hlayer⟩⟩ := takeShared_eq_ok_iff.mp h
    · cases hnone
    · obtain rfl := Option.some.inj hfound
      exact ⟨key, layer, rfl, hget, hlayer⟩

/-- An entry that is accepted on top of shared defaults is accepted on its own. -/
theorem accepts_of_withShared (hc : item.Checked) (hp : item.Everywhere Plain)
    {shared? : Option (OrderedMap Value)}
    (hplain : shared? ≠ none → item.Everywhere fun part => part.isDerived = false)
    (hshared : ∀ shared, shared? = some shared → item.isKeyed ∧ (Value.map shared).Proper)
    {value : Value} (hvalue : value.Proper) (h : item.Accepts (withShared shared? value)) :
    item.Accepts value := by
  cases shared? with
  | none => exact h
  | some shared =>
    obtain ⟨hkeyed, hproper⟩ := hshared shared rfl
    cases item with
    | keyed info children extraKeys =>
      have hchildren : ∀ child ∈ children, child.isDerived = false := fun child hchild =>
        ((hplain (by simp)).child hchild).self
      cases value with
      | map fields =>
        have hsection := (accepts_keyed_iff hc hp hchildren
          (OrderedMap.distinct_insertMany hproper.self _)).mp h
        exact (accepts_keyed_iff hc hp hchildren hvalue.self).mpr (hsection.overlay hvalue.self)
      | null => exact accepts_null _
      | _ => exact h
    | _ => cases hkeyed

/-- A category accepts just the mappings in which the entries beside the shared defaults are enough,
have keys that are allowed, and are accepted on top of these defaults. -/
theorem accepts_category_iff (hp : item.Plain) {fields : OrderedMap Value} (hd : fields.Distinct) :
    (category info item minEntries defaultKey?).Accepts (.map fields) ↔
      ∃ folded shared? others, info.foldKeys "" fields = .ok folded ∧
        takeShared (fun path value => item.validateAt .layer path value) "" defaultKey? folded =
          .ok (shared?, others) ∧
        minEntries ≤ others.entries.length ∧
        ∀ entry ∈ others.entries, info.checkKey (Path.join "" entry.1) entry.1 = .ok () ∧
          item.Accepts (withShared shared? entry.2) := by
  have hdistinct : ∀ folded, info.categoryFields "" (.map fields) = .ok folded → folded.Distinct :=
    fun folded hfolded => (Info.foldKeys_eq_ok hfolded hd).1
  constructor
  · rintro ⟨layer, hlayer⟩
    obtain ⟨folded, shared?, others, valids, hfolded, hshared, hvalids, hsize, -⟩ :=
      (validateAt_category_eq_ok hp (.inr (by simp)) (by simp) hdistinct).mp hlayer
    refine ⟨folded, shared?, others, hfolded, hshared, by rwa [hvalids.length_eq], ?_⟩
    intro entry hentry
    obtain ⟨valid, -, -, hkey, hvalid⟩ := Outcome.exists_of_forall₂ hvalids.flip hentry
    exact ⟨hkey, accepts_of_validateAt hvalid⟩
  · rintro ⟨folded, shared?, others, hfolded, hshared, hsize, hothers⟩
    obtain ⟨valids, hvalids⟩ : ∃ valids, List.Forall₂ (EntryValid info item .layer "" shared?)
        others.entries valids := by
      refine Outcome.exists_forall₂ fun entry hentry => ?_
      obtain ⟨hkey, haccepts⟩ := hothers entry hentry
      obtain ⟨layer, hlayer⟩ := haccepts.exists_layer (Path.join "" entry.1)
      exact ⟨(entry.1, layer), rfl, hkey, hlayer⟩
    exact ⟨_, (validateAt_category_eq_ok hp (.inr (by simp)) (by simp) hdistinct).mpr
      ⟨folded, shared?, others, valids, hfolded, hshared, hvalids, by rwa [← hvalids.length_eq],
        rfl⟩⟩

/-- A category that accepts a mapping accepts each of its entries on its own, the shared defaults
among them, and has enough of them. -/
theorem Accepts.entries (hc : (category info item minEntries defaultKey?).Checked)
    (hp : (category info item minEntries defaultKey?).Everywhere Plain)
    (hplain : defaultKey? ≠ none → item.Everywhere fun part => part.isDerived = false)
    {fields : OrderedMap Value} (hfields : (Value.map fields).Proper)
    (h : (category info item minEntries defaultKey?).Accepts (.map fields)) :
    minEntries ≤ fields.entries.length ∧ ∀ entry ∈ fields.entries, item.Accepts entry.2 := by
  obtain ⟨folded, shared?, others, hfolded, hshared, hsize, hothers⟩ :=
    (accepts_category_iff hp.entry.self hfields.self).mp h
  have hdistinct : folded.Distinct := (Info.foldKeys_eq_ok hfolded hfields.self).1
  obtain ⟨hnodup, rfl⟩ := (Info.foldKeys_eq_ok_iff hfields.self).mp hfolded
  obtain ⟨hsublist, -, hbase⟩ := takeShared_eq_ok hdistinct hshared
  have hproper : ∀ entry ∈ fields.entries.map (Prod.map info.keyCase.apply id),
      entry.2.Proper := by
    intro entry hentry
    obtain ⟨raw, hraw, rfl⟩ := List.mem_map.mp hentry
    exact (hfields.of_field hraw :)
  constructor
  · exact hsize.trans (hsublist.length_le.trans (List.length_map _).le)
  · intro entry hentry
    rcases mem_of_takeShared hdistinct hshared
      (List.mem_map_of_mem (f := Prod.map info.keyCase.apply id) hentry) with
      hother | hnull | ⟨q, valid, hvalid⟩
    · refine accepts_of_withShared hc.entry hp.entry (fun hsome => hplain ?_)
        (fun shared hsome => ⟨?_, ?_⟩) (hfields.of_field hentry) (hothers _ hother).2
      · -- what is shared stands under the default key
        obtain ⟨shared, rfl⟩ := Option.ne_none_iff_exists'.mp hsome
        obtain ⟨key, layer, rfl, -, -⟩ := takeShared_eq_some hshared
        simp
      · subst hsome
        exact hc.isKeyed_of_takeShared hshared
      · obtain ⟨key, hkey⟩ := hbase shared hsome
        exact hproper _ hkey
    · rw [show entry.2 = .null from hnull]
      exact accepts_null item
    · exact accepts_of_validateAt hvalid

/-- The shared defaults are found in what is written of a category. -/
theorem takeShared_mapValues {check : String → Value → Except Failure Value} {e : Value → Value}
    {fields others : OrderedMap Value} {shared? : Option (OrderedMap Value)}
    (h : takeShared check path defaultKey? fields = .ok (shared?, others))
    (hnull : defaultKey?.isSome → e .null = .null)
    (hmap : ∀ key shared, shared? = some shared → ∃ shared' layer, e (.map shared) = .map shared' ∧
      check (Path.join path key) (.map shared') = .ok layer) :
    ∃ shared'?, takeShared check path defaultKey? (fields.mapValues e) =
        .ok (shared'?, others.mapValues e) ∧
      Option.Rel (fun shared shared' => e (.map shared) = .map shared') shared? shared'? := by
  cases defaultKey? with
  | none =>
    obtain ⟨rfl, rfl⟩ := Prod.mk.inj (Except.ok.inj h)
    exact ⟨none, rfl, .none⟩
  | some key =>
    simp only [takeShared, OrderedMap.get?_mapValues, OrderedMap.erase_mapValues] at h ⊢
    cases hvalue : fields.get? key with
    | none =>
      rw [hvalue] at h
      obtain ⟨rfl, rfl⟩ := Prod.mk.inj (Except.ok.inj h)
      exact ⟨none, rfl, .none⟩
    | some value =>
      rw [hvalue] at h
      cases value with
      | null =>
        obtain ⟨rfl, rfl⟩ := Prod.mk.inj (Except.ok.inj h)
        rw [Option.map_some, hnull rfl]
        exact ⟨none, rfl, .none⟩
      | map shared =>
        obtain ⟨_, -, h⟩ := Outcome.bind_eq_ok.mp h
        obtain ⟨rfl, rfl⟩ := Prod.mk.inj (Outcome.pure_eq_ok.mp h)
        obtain ⟨shared', layer, hshared, hlayer⟩ := hmap key shared rfl
        refine ⟨some shared', ?_, .some hshared⟩
        rw [Option.map_some, hshared]
        dsimp only
        rw [hlayer]
        rfl
      | _ => cases h

/-- What is written of an entry with shared defaults is accepted, if the entry and its defaults
are. -/
theorem accepts_withShared_dumped (hc : item.Checked) (hp : item.Everywhere Plain)
    (hplain : item.Everywhere fun part => part.isDerived = false)
    {shared? shared'? : Option (OrderedMap Value)}
    (hrel : Option.Rel (fun shared shared' =>
      item.dumped opts (some (.map shared)) = .map shared') shared? shared'?)
    (hshared : ∀ shared, shared? = some shared → item.isKeyed ∧ (Value.map shared).Proper ∧
      item.Fits opts (some (.map shared)) ∧ item.Accepts (item.dumped opts (some (.map shared))))
    {value : Value} (hvalue : value.Proper) (hfits : item.Fits opts (some value))
    (h : item.Accepts (withShared shared? value))
    (hdumped : item.Accepts (item.dumped opts (some value))) :
    item.Accepts (withShared shared'? (item.dumped opts (some value))) := by
  cases hrel with
  | none => exact hdumped
  | @some shared shared' heq =>
    obtain ⟨hkeyed, hproper, hfitsShared, haccepts⟩ := hshared shared rfl
    cases item with
    | keyed info children extraKeys =>
      have hchildren : ∀ child ∈ children, child.isDerived = false := fun child hchild =>
        (hplain.child hchild).self
      obtain rfl := Value.map.inj heq
      cases value with
      | map fields =>
        exact accepts_insertMany_dumped hc hp hchildren hproper.self hvalue.self h
          (hfitsShared _ rfl) (hfits _ rfl) haccepts hdumped
      | null => exact haccepts
      | _ => exact h
    | _ => cases hkeyed

theorem accepts_emptyMap_category (hp : item.Plain) :
    (category info item 0 defaultKey?).Accepts .emptyMap := by
  have hfolded : info.foldKeys "" .empty = .ok .empty :=
    Info.foldKeys_of_folded Value.Proper.emptyMap.self
      (by simp [OrderedMap.Folded, OrderedMap.keys, OrderedMap.empty])
  refine (accepts_category_iff hp Value.Proper.emptyMap.self).mpr
    ⟨.empty, none, .empty, hfolded, takeShared_empty, Nat.zero_le _, ?_⟩
  simp [OrderedMap.empty]

/-- What is written of shared defaults is shared in turn. -/
theorem takeShared_dumped (hkeyed : defaultKey?.isSome → item.isKeyed)
    {fields others : OrderedMap Value} {shared? : Option (OrderedMap Value)}
    (h : takeShared (fun path value => item.validateAt .layer path value) path defaultKey? fields =
      .ok (shared?, others))
    (hdumped : ∀ shared, shared? = some shared →
      item.Accepts (item.dumped opts (some (.map shared)))) :
    ∃ shared'?, takeShared (fun path value => item.validateAt .layer path value) path defaultKey?
        (fields.mapValues fun value => item.dumped opts (some value)) =
          .ok (shared'?, others.mapValues fun value => item.dumped opts (some value)) ∧
      Option.Rel (fun shared shared' => item.dumped opts (some (.map shared)) = .map shared')
        shared? shared'? := by
  refine takeShared_mapValues h (fun hsome => ?_) fun key shared hsome => ?_
  · cases item with
    | keyed info children extraKeys => rfl
    | _ => cases hkeyed hsome
  · obtain ⟨key', -, rfl, -, -⟩ := takeShared_eq_some (hsome ▸ h)
    obtain ⟨layer, hlayer⟩ := (hdumped shared hsome).exists_layer (Path.join path key)
    cases item with
    | keyed info children extraKeys => exact ⟨_, layer, rfl, hlayer⟩
    | _ => cases hkeyed rfl

/-- What is written of a mapping that a category accepts is accepted, if what is written of each
entry is. -/
theorem accepts_mapValues_dumped (hc : (category info item minEntries defaultKey?).Checked)
    (hp : (category info item minEntries defaultKey?).Everywhere Plain)
    (hplain : item.Everywhere fun part => part.isDerived = false)
    {fields : OrderedMap Value} (hfields : (Value.map fields).Proper)
    (h : (category info item minEntries defaultKey?).Accepts (.map fields))
    (hfits : ∀ entry ∈ fields.entries, item.Fits opts (some entry.2))
    (hdumped : ∀ entry ∈ fields.entries, item.Accepts (item.dumped opts (some entry.2))) :
    (category info item minEntries defaultKey?).Accepts
      (.map (fields.mapValues fun value => item.dumped opts (some value))) := by
  have hwritten : (fields.mapValues fun value => item.dumped opts (some value)).Distinct := by
    rw [OrderedMap.Distinct, OrderedMap.keys_mapValues]
    exact hfields.self
  obtain ⟨folded, shared?, others, hfolded, hshared, hsize, hothers⟩ :=
    (accepts_category_iff hp.entry.self hfields.self).mp h
  obtain ⟨hdistinct, -, hentries⟩ := Info.foldKeys_eq_ok hfolded hfields.self
  obtain ⟨hsublist, -, -⟩ := takeShared_eq_ok hdistinct hshared
  have hkeyed : defaultKey?.isSome → item.isKeyed := fun hsome => by
    obtain ⟨key, rfl⟩ := Option.isSome_iff_exists.mp hsome
    exact hc.isKeyed
  -- the shared defaults are an entry like the others, and have been checked on their own
  have hbase : ∀ shared, shared? = some shared → item.isKeyed ∧ (Value.map shared).Proper ∧
      item.Fits opts (some (.map shared)) ∧
      item.Accepts (item.dumped opts (some (.map shared))) := by
    rintro shared rfl
    obtain ⟨key, -, hkey, hvalue, -⟩ := takeShared_eq_some hshared
    obtain ⟨raw, hraw⟩ := hentries _ (OrderedMap.mem_of_lookup hvalue)
    exact ⟨hkeyed (by rw [hkey]; rfl), hfields.of_field hraw, hfits _ hraw, hdumped _ hraw⟩
  obtain ⟨shared'?, hsharedWritten, hrel⟩ := takeShared_dumped hkeyed hshared
    fun shared hsome => (hbase shared hsome).2.2.2
  refine (accepts_category_iff hp.entry.self hwritten).mpr ⟨_, shared'?, _,
    Info.foldKeys_mapValues hfields.self hfolded _, hsharedWritten, ?_, fun entry hentry => ?_⟩
  · rwa [OrderedMap.mapValues, List.length_map]
  · obtain ⟨raw, hraw, rfl⟩ := List.mem_map.mp hentry
    obtain ⟨rawKey, hrawEntry⟩ := hentries raw (hsublist.subset hraw)
    obtain ⟨hkey, haccepts⟩ := hothers raw hraw
    exact ⟨hkey, accepts_withShared_dumped hc.entry hp.entry hplain hrel hbase
      (hfields.of_field hrawEntry :) (hfits _ hrawEntry :) haccepts (hdumped _ hrawEntry :)⟩

/-! ## Items of lists -/

/-- A list accepts just the sequences of a length that it allows, of items that are accepted. -/
theorem accepts_list_iff {minLength? maxLength? : Option Nat}
    (hp : (list info item minLength? maxLength?).Everywhere Plain) {items : List Value} :
    (list info item minLength? maxLength?).Accepts (.seq items) ↔
      checkLength "" minLength? maxLength? items.length = .ok () ∧
        ∀ value ∈ items, item.Accepts value := by
  constructor
  · rintro ⟨layer, hlayer⟩
    obtain ⟨_, hitems, hlength, hvalid⟩ := exists_of_layer_list (by simp) hlayer
    obtain rfl := Except.ok.inj hitems
    refine ⟨hlength, fun value hvalue => ?_⟩
    obtain ⟨q, layer, hlayer⟩ := hvalid value hvalue
    exact accepts_of_validateAt hlayer
  · rintro ⟨hlength, hvalid⟩
    obtain ⟨valids, hvalids⟩ : ∃ valids, List.Forall₂ (fun entry valid =>
        item.validateAt .layer (Path.join "" (toString entry.2)) entry.1 = .ok valid)
        items.zipIdx valids :=
      Outcome.exists_forall₂ fun entry hentry =>
        (hvalid entry.1 (List.fst_mem_of_mem_zipIdx hentry)).exists_layer _
    exact ⟨_, (validateAt_list_eq_ok hp.item.self (.inr (by simp))).mpr
      ⟨items, valids, rfl, hlength, Outcome.mapM_eq_ok.mpr hvalids, by simp, rfl⟩⟩

/-! ## What is written is accepted -/

variable {value? : Option Value}

/-- A value of another shape than the element is written as it stands. -/
theorem accepts_getD {element : Element}
    (hvalue : ∀ value ∈ value?, value.Proper ∧ element.Accepts value) :
    element.Accepts (value?.getD .null) :=
  Value.of_getD (accepts_null element) fun value hsome => (hvalue value hsome).2

/-- What is written in place of a missing value is accepted. -/
theorem Checked.proper_accepts_default {element : Element} (hc : element.Checked)
    (hdefault : element.HasProperDefault) (default : Value)
    (hsome : element.info.default? = some default) : default.Proper ∧ element.Accepts default :=
  ⟨hdefault.proper default hsome, hc.accepts_default hsome⟩

theorem accepts_scalar_dumped {type : ScalarType} (hc : (scalar info type).Checked)
    (hvalue : ∀ value ∈ value?, (scalar info type).Accepts value) :
    (scalar info type).Accepts ((scalar info type).dumped opts value?) := by
  have hdefault : (scalar info type).Accepts (info.default?.getD .null) :=
    Value.of_getD (accepts_null _) fun default hsome => hc.accepts_default hsome
  exact Value.of_getD hdefault hvalue

/-- The lines of a block of code are accepted. -/
theorem accepts_codeLinesOf (h : ∀ value ∈ value?, (code info).Accepts value) :
    (code info).Accepts (codeLinesOf value?) := by
  match value? with
  | none => exact ⟨_, rfl⟩
  | some (.str text) =>
    refine ⟨.str (Info.codeBlock (Text.lines text)), ?_⟩
    rw [codeLinesOf, validateAt_code (.inr (by simp)), Info.validateCode, Info.codeLines_map_str]
    rfl
  | some .null | some (.bool _) | some (.int _) | some (.float _) | some (.seq _)
  | some (.map _) => exact h _ rfl

theorem accepts_code_dumped (hc : (code info).Checked)
    (hvalue : ∀ value ∈ value?, (code info).Accepts value) :
    (code info).Accepts ((code info).dumped opts value?) := by
  refine accepts_codeLinesOf fun block hblock => ?_
  rcases Option.or_eq_some_iff.mp hblock with hgiven | ⟨-, hdefault⟩
  · exact hvalue block hgiven
  · exact hc.accepts_default hdefault

theorem accepts_keyed_dumped (hc : (keyed info children extraKeys).Checked)
    (hp : (keyed info children extraKeys).Everywhere Plain)
    (hplain : ∀ child ∈ children, child.isDerived = false)
    (hdefault : (keyed info children extraKeys).HasProperDefault)
    (hvalue : ∀ value ∈ value?, value.Proper ∧ (keyed info children extraKeys).Accepts value)
    (hfits : (keyed info children extraKeys).Fits opts value?)
    (hdumped : ∀ fields, info.writtenFields? value? = some fields → ∀ child ∈ children,
      child.isOmitted opts (fields.get? child.key) = false →
      (∀ value ∈ fields.get? child.key, value.Proper ∧ child.Accepts value) →
      child.Accepts (child.dumped opts (fields.get? child.key))) :
    (keyed info children extraKeys).Accepts
      ((keyed info children extraKeys).dumped opts value?) := by
  rw [dumped]
  cases hfields : info.writtenFields? value? with
  | none => exact accepts_getD hvalue
  | some fields =>
    obtain ⟨hproper, haccepts⟩ := Info.of_writtenFields?
      (fun _ _ => ⟨.emptyMap, accepts_emptyMap_keyed hc hp hplain⟩)
      (hc.proper_accepts_default hdefault) hvalue hfields
    have hsection := (accepts_keyed_iff hc hp hplain hproper.self).mp haccepts
    refine (accepts_keyed_iff hc hp hplain (distinct_dumped hc opts hproper.self)).mpr
      (layerSection_dumpedFields hc hproper.self hsection (hfits fields hfields) ?_)
    intro child hchild hshown
    refine hdumped fields hfields child hchild hshown fun value hget => ⟨?_, ?_⟩
    · exact (hproper.of_field (OrderedMap.mem_of_lookup hget) :)
    · exact hsection.valid child.key value hget child hchild (hc.apply_key hchild)

theorem accepts_category_dumped (hc : (category info item minEntries defaultKey?).Checked)
    (hp : (category info item minEntries defaultKey?).Everywhere Plain)
    (hplain : item.Everywhere fun part => part.isDerived = false)
    (hdefault : (category info item minEntries defaultKey?).HasProperDefault)
    (hvalue : ∀ value ∈ value?,
      value.Proper ∧ (category info item minEntries defaultKey?).Accepts value)
    (hfits : (category info item minEntries defaultKey?).Fits opts value?)
    (hentries : ∀ fields, info.writtenFields? value? = some fields → ∀ entry ∈ fields.entries,
      item.Fits opts (some entry.2) ∧ (entry.2.Proper ∧ item.Accepts entry.2 →
        item.Accepts (item.dumped opts (some entry.2)))) :
    (category info item minEntries defaultKey?).Accepts
      ((category info item minEntries defaultKey?).dumped opts value?) := by
  rw [dumped]
  cases hfields : info.writtenFields? value? with
  | none => exact accepts_getD hvalue
  | some fields =>
    have hempty : value? = none → info.default?.bind Value.asMap? = none →
        Value.emptyMap.Proper ∧
          (category info item minEntries defaultKey?).Accepts .emptyMap := by
      rintro rfl hnone
      obtain rfl : minEntries = 0 := hfits hnone
      exact ⟨.emptyMap, accepts_emptyMap_category hp.entry.self⟩
    obtain ⟨hproper, haccepts⟩ :=
      Info.of_writtenFields? hempty (hc.proper_accepts_default hdefault) hvalue hfields
    obtain ⟨-, hvalid⟩ := haccepts.entries hc hp (fun _ => hplain) hproper
    refine accepts_mapValues_dumped hc hp hplain hproper haccepts
      (fun entry hentry => (hentries fields hfields entry hentry).1) fun entry hentry => ?_
    exact (hentries fields hfields entry hentry).2
      ⟨hproper.of_field hentry, hvalid entry hentry⟩

theorem accepts_list_dumped {minLength? maxLength? : Option Nat}
    (hc : (list info item minLength? maxLength?).Checked)
    (hp : (list info item minLength? maxLength?).Everywhere Plain)
    (hdefault : (list info item minLength? maxLength?).HasProperDefault)
    (hvalue : ∀ value ∈ value?,
      value.Proper ∧ (list info item minLength? maxLength?).Accepts value)
    (hfits : (list info item minLength? maxLength?).Fits opts value?)
    (hitems : ∀ values, info.writtenItems? value? = some values → ∀ inner? ∈ values,
      (∀ value ∈ inner?, value.Proper ∧ item.Accepts value) →
      item.Accepts (item.dumped opts inner?)) :
    (list info item minLength? maxLength?).Accepts
      ((list info item minLength? maxLength?).dumped opts value?) := by
  rw [dumped]
  cases hvalues : info.writtenItems? value? with
  | none => exact accepts_getD hvalue
  | some values =>
    have hdefault := hc.proper_accepts_default hdefault
    refine (accepts_list_iff hp).mpr ⟨?_, fun value hmem => ?_⟩
    · rw [List.length_map]
      rcases Info.of_writtenItems? hdefault hvalue hvalues with
        ⟨rfl, hnone, rfl⟩ | ⟨items, rfl, -, haccepts⟩
      · exact checkLength_eq_ok_iff.mpr (hfits hnone)
      · rw [List.length_map]
        exact ((accepts_list_iff hp).mp haccepts).1
    · obtain ⟨inner?, hinner, rfl⟩ := List.mem_map.mp hmem
      refine hitems values hvalues inner? hinner fun value => ?_
      exact Info.of_mem_writtenItems? (P := fun value => value.Proper ∧ item.Accepts value)
        (fun items h inner hitem =>
          ⟨h.1.of_item hitem, ((accepts_list_iff hp).mp h.2).2 inner hitem⟩)
        hdefault hvalue hvalues hinner

/-- What is written of a layer, or of a template, is accepted as a layer, if the schema allows what
the writer puts in. -/
theorem accepts_dumped {element : Element} (hc : element.Checked) (hp : element.Everywhere Plain)
    (hplain : element.Everywhere fun part => part.isDerived = false)
    (hdefaults : element.Everywhere HasProperDefault)
    (hvalue : ∀ value ∈ value?, value.Proper ∧ element.Accepts value)
    (hfits : ∀ part inner?, Writes opts part inner? element value? → part.Fits opts inner?) :
    element.Accepts (element.dumped opts value?) := by
  induction element using Element.induction generalizing value? with
  | scalar info type => exact accepts_scalar_dumped hc fun value hsome => (hvalue value hsome).2
  | code info => exact accepts_code_dumped hc fun value hsome => (hvalue value hsome).2
  | keyed info children extraKeys ih =>
    refine accepts_keyed_dumped hc hp (fun child hchild => (hplain.child hchild).self)
      hdefaults.self hvalue (hfits _ _ .self) fun fields hfields child hchild hshown hget => ?_
    exact ih child hchild (hc.child hchild).2.2 (hp.child hchild) (hplain.child hchild)
      (hdefaults.child hchild) hget fun part inner? h =>
        hfits part inner? (.child hfields hchild hshown h)
  | category info item minEntries defaultKey? ih =>
    refine accepts_category_dumped hc hp hplain.entry hdefaults.self hvalue (hfits _ _ .self)
      fun fields hfields entry hentry => ?_
    have hwrites : ∀ part inner?, Writes opts part inner? item (some entry.2) →
        part.Fits opts inner? := fun part inner? h => hfits part inner? (.entry hfields hentry h)
    refine ⟨hwrites _ _ .self, fun hvalid => ?_⟩
    exact ih hc.entry hp.entry hplain.entry hdefaults.entry (by simpa using hvalid) hwrites
  | list info item minLength? maxLength? ih =>
    refine accepts_list_dumped hc hp hdefaults.self hvalue (hfits _ _ .self)
      fun values hvalues inner? hinner hvalid => ?_
    exact ih hc.item hp.item hplain.item hdefaults.item hvalid fun part other? h =>
      hfits part other? (.item hvalues hinner h)
  | derived info resolve => cases hplain.self

/-- If what is written of an element is accepted, the schema allows what the writer puts in
there. -/
theorem fits_of_accepts_dumped {element : Element} (hc : element.Checked)
    (hp : element.Everywhere Plain) (hplain : element.Everywhere fun part => part.isDerived = false)
    (hdefault : element.HasProperDefault) (hvalue : ∀ value ∈ value?, value.Proper)
    (h : element.Accepts (element.dumped opts value?)) : element.Fits opts value? := by
  match element, value? with
  | keyed info children extraKeys, value? =>
    intro fields hfields
    have hchildren : ∀ child ∈ children, child.isDerived = false := fun child hchild =>
      (hplain.child hchild).self
    have hproper : (Value.map fields).Proper :=
      hdefault.proper_writtenFields hvalue hfields
    rw [dumped, hfields] at h
    exact spells_of_layerSection hc
      ((accepts_keyed_iff hc hp hchildren (distinct_dumped hc opts hproper.self)).mp h)
  | category info item minEntries defaultKey?, none =>
    intro hnone
    have hfields : info.writtenFields? none = some .empty := by
      rw [Info.writtenFields?, Info.defaultFields, hnone]
      rfl
    rw [dumped, hfields] at h
    exact Nat.le_zero.mp (h.entries hc hp (fun _ => hplain.entry) .emptyMap).1
  | list info item minLength? maxLength?, none =>
    intro hnone
    have hvalues : info.writtenItems? none = some [none] := by
      rw [Info.writtenItems?, hnone]
    rw [dumped, hvalues] at h
    exact checkLength_eq_ok_iff.mp ((accepts_list_iff hp).mp h).1
  | category .., some _ | list .., some _ | scalar .., _ | code .., _ | derived .., _ => trivial

/-- What is written of a layer, or of a template, is accepted as a layer exactly if the schema
allows what the writer puts in, in all parts that are written. -/
theorem accepts_dumped_iff {element : Element} (hc : element.Checked)
    (hp : element.Everywhere Plain) (hplain : element.Everywhere fun part => part.isDerived = false)
    (hdefaults : element.Everywhere HasProperDefault)
    (hvalue : ∀ value ∈ value?, value.Proper ∧ element.Accepts value) :
    element.Accepts (element.dumped opts value?) ↔
      ∀ part inner?, Writes opts part inner? element value? → part.Fits opts inner? := by
  refine ⟨fun h part inner? hwrites => ?_, accepts_dumped hc hp hplain hdefaults hvalue⟩
  replace hvalue : ∀ value ∈ value?, value.Proper := fun value hsome => (hvalue value hsome).1
  -- what is accepted of the whole is accepted of each part that is written
  induction hwrites with
  | self => exact fits_of_accepts_dumped hc hp hplain hdefaults.self hvalue h
  | @child info children extraKeys value? fields child hfields hchild hshown _ ih =>
    have hchildren : ∀ child ∈ children, child.isDerived = false := fun child hchild =>
      (hplain.child hchild).self
    have hproper : (Value.map fields).Proper :=
      hdefaults.self.proper_writtenFields hvalue hfields
    have hwritten := distinct_dumped hc opts hproper.self
    rw [dumped, hfields] at h
    have hsection := (accepts_keyed_iff hc hp hchildren hwritten).mp h
    refine ih (hc.child hchild).2.2 (hp.child hchild) (hplain.child hchild)
      (hdefaults.child hchild) (hsection.valid child.key _ ?_ child hchild
        (hc.apply_key hchild)) fun value hget => ?_
    · exact OrderedMap.lookup_of_mem hwritten
        (List.mem_append_left _ (mem_dumpedEntries.mpr ⟨child, hchild, hshown, rfl⟩))
    · exact (hproper.of_field (OrderedMap.mem_of_lookup hget) :)
  | @entry info item minEntries defaultKey? value? fields entry hfields hentry _ ih =>
    have hproper : (Value.map fields).Proper :=
      hdefaults.self.proper_writtenFields hvalue hfields
    have hwritten := proper_dumped hc hdefaults opts hvalue
    rw [dumped, hfields] at h hwritten
    refine ih hc.entry hp.entry hplain.entry hdefaults.entry
      ((h.entries hc hp (fun _ => hplain.entry) hwritten).2 _ (List.mem_map_of_mem hentry)) ?_
    rintro _ ⟨⟩
    exact hproper.of_field hentry
  | @item info item minLength? maxLength? value? values value'? hvalues hitem _ ih =>
    rw [dumped, hvalues] at h
    refine ih hc.item hp.item hplain.item hdefaults.item
      (((accepts_list_iff hp).mp h).2 _ (List.mem_map_of_mem hitem)) fun value hsome => ?_
    exact hdefaults.self.proper_writtenItems hvalue hvalues hitem hsome

/-! ## Templates -/

/-- A list allows one item, and a category needs none. -/
def Roomy : Element → Prop
  | category _ _ minEntries _ => minEntries = 0
  | list _ _ minLength? maxLength? =>
      (∀ least, minLength? = some least → least ≤ 1) ∧ ∀ most, maxLength? = some most → 1 ≤ most
  | _ => True

/-- Where no keys are folded, all lists allow one item and no category needs any, everything that is
written is allowed. -/
theorem fits_of_writes {schema part : Element} {inner? : Option Value}
    (hmixed : schema.Everywhere fun part => part.info.keyCase = .mixed)
    (hroomy : schema.Everywhere Roomy) (h : Writes opts part inner? schema value?) :
    part.Fits opts inner? := by
  have hmixed : part.info.keyCase = .mixed := hmixed part h.within
  have hroomy : part.Roomy := hroomy part h.within
  match part, inner? with
  | keyed info children extraKeys, _ =>
    intro fields _ k _ child _ _ heq
    rwa [show info.keyCase = .mixed from hmixed] at heq
  | category .., none => exact fun _ => hroomy
  | list .., none => exact fun _ => hroomy
  | category .., some _ | list .., some _ | scalar .., _ | code .., _ | derived .., _ => trivial

/-- What is written of a value or a template is read back. -/
theorem ofEvents?_document {schema : Element} (hc : schema.Checked)
    (hplain : schema.isDerived = false) (hdefaults : schema.Everywhere HasProperDefault)
    (opts : DumpOptions) (hvalue : ∀ value ∈ value?, value.Proper) :
    Value.ofEvents? (schema.document opts value?) = .ok (schema.dumped opts value?) :=
  ofEvents?_document_of (proper_dumped hc hdefaults opts hvalue)
    (withoutComments_dumped hc hplain opts value?)

/-- A template is read back, and it is valid as a layer exactly if the schema allows what the writer
puts in, in all parts that the template shows. -/
theorem exists_template {schema : Element} (hcheck : schema.check = .ok ())
    (hp : schema.Everywhere Plain)
    (hplain : schema.Everywhere fun part => part.isDerived = false)
    (hdefaults : schema.Everywhere HasProperDefault) (opts : DumpOptions) :
    ∃ template, Value.ofEvents? (schema.document opts none) = .ok template ∧
      ((∃ layer, schema.validate .layer template = .ok layer) ↔
        ∀ part inner?, Writes opts part inner? schema none → part.Fits opts inner?) := by
  have hc : schema.Checked := ⟨"", false, hcheck⟩
  refine ⟨schema.dumped opts none, ofEvents?_document hc hplain.self hdefaults opts (by simp), ?_⟩
  rw [hp.self.validate]
  exact accepts_dumped_iff hc hp hplain hdefaults (by simp)

/-- The template of a pet has the defaults, and one name that is still to be given. -/
theorem exists_template_pet : ∃ template layer,
    Value.ofEvents? (Samples.pet.document { commentWidth := 60 } none) = .ok template ∧
      Samples.pet.validate .layer template = .ok layer := by
  have hplain : Samples.pet.Everywhere fun part => part.isDerived = false := by
    simp [Samples.pet, Everywhere.keyed_iff, Everywhere.list_iff, Everywhere.scalar_iff, isDerived]
  have hmixed : Samples.pet.Everywhere fun part => part.info.keyCase = .mixed := by
    simp [Samples.pet, Everywhere.keyed_iff, Everywhere.list_iff, Everywhere.scalar_iff, info]
  have hroomy : Samples.pet.Everywhere Roomy := by
    simp [Samples.pet, Everywhere.keyed_iff, Everywhere.list_iff, Everywhere.scalar_iff, Roomy]
  obtain ⟨template, hread, hvalid⟩ := exists_template rfl
    (settled_pet.imp fun _ => Settled.toPlain) hplain
    (settled_pet.imp fun _ => Settled.toHasProperDefault) { commentWidth := 60 }
  obtain ⟨layer, hlayer⟩ := hvalid.mpr fun _ _ => fits_of_writes hmixed hroomy
  exact ⟨template, layer, hread, hlayer⟩

/-- The template of a list shows one item, also where the list needs more of them. -/
theorem not_valid_template :
    ∃ (schema : Element) (template : Value), schema.check = .ok () ∧
      schema.Everywhere Plain ∧ (schema.Everywhere fun part => part.isDerived = false) ∧
      Value.ofEvents? (schema.document {} none) = .ok template ∧
      ∀ layer, schema.validate .layer template ≠ .ok layer := by
  refine ⟨list {} (scalar {} .int) (some 2) none, .seq [.null], rfl, ?_, ?_, rfl, ?_⟩
  · simp [Everywhere.list_iff, Everywhere.scalar_iff, info]
  · simp [Everywhere.list_iff, Everywhere.scalar_iff, isDerived]
  · intro layer h
    cases h

end ConfigSchema.Element
