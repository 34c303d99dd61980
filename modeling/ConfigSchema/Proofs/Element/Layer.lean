import ConfigSchema.Proofs.Element.Restore

/-!
# Layers lose nothing

A layer is brought into the types and the keys of its schema before it is merged with others, and
what is absent stays null. Validation reads the layer as it reads the raw value: as a layer again or
as a whole document, with the same outcome, whether this is a document or a failure.

## Main definitions

- `Element.isLeaf` — the element is a scalar or a code block
- `Element.ReadsAlike` — validation does not tell two values apart

## Main statements

- `Element.readsAlike_of_validateAt` — a valid layer is read like the value that it was made from
- `Element.validate_layer` — a valid layer is valid as it stands, and as a document it is what the
  raw value is
-/

namespace ConfigSchema.Element

variable {info : Info} {mode : Mode} {path : String}

/-- Validation against the element gives the same for both values, in every mode and at every place,
failures included. -/
def ReadsAlike (element : Element) (value other : Value) : Prop :=
  ∀ mode path, element.validateAt mode path value = element.validateAt mode path other

/-! ## Scalars and code blocks -/

/-- Whether the element is a scalar or a code block. -/
def isLeaf : Element → Bool
  | scalar _ _ | code _ => true
  | keyed _ _ _ | category _ _ _ _ | list _ _ _ _ | derived _ _ => false

theorem validateAt_scalar {type : ScalarType} {value : Value} (hreads : mode.Reads value) :
    (scalar info type).validateAt mode path value = info.validateScalar type path value := by
  rw [validateAt.eq_def]
  dsimp only
  rw [hreads.not_skipped, if_neg Bool.false_ne_true]

theorem validateAt_code {value : Value} (hreads : mode.Reads value) :
    (code info).validateAt mode path value = info.validateCode path value := by
  rw [validateAt.eq_def]
  dsimp only
  rw [hreads.not_skipped, if_neg Bool.false_ne_true]

theorem readsAlike_scalar {type : ScalarType} {value layer : Value} (hvalue : value ≠ .null)
    (h : info.validateScalar type path value = .ok layer) :
    (scalar info type).ReadsAlike layer value := by
  intro mode q
  have hnull : value.isNull = false := by
    cases value with
    | null => exact absurd rfl hvalue
    | _ => rfl
  have hgiven := (info.validateScalar_alike type path q value layer).mp h
  obtain ⟨hself, hlayer⟩ := Info.validateScalar_converted hnull hgiven
  have hlayer : layer ≠ .null := by
    rintro rfl
    cases hlayer
  rw [validateAt_scalar (.inr hlayer), validateAt_scalar (.inr hvalue), hself, hgiven]

theorem readsAlike_code {value layer : Value} (hvalue : value ≠ .null)
    (h : info.validateCode path value = .ok layer) : (code info).ReadsAlike layer value := by
  intro mode q
  have hgiven := (info.validateCode_alike path q value layer).mp h
  obtain ⟨text, rfl⟩ := Info.validateCode_eq_ok hvalue h
  rw [validateAt_code (.inr (by simp)), validateAt_code (.inr hvalue), hgiven]
  exact congrArg (Except.ok ∘ Value.str) (Info.codeBlock_codeBlock text)

/-! ## Sections -/

/-- The declared entries have the same valid forms, or the same failure, if each child makes the
same of its values. -/
theorem validateChildren_congr {children : List Element} {fields others : OrderedMap Value}
    (h : ∀ child ∈ children, child.isDerived = false →
      child.validateAt mode (Path.join path child.key) ((fields.get? child.key).getD .null) =
        child.validateAt mode (Path.join path child.key) ((others.get? child.key).getD .null)) :
    validateChildren children mode path fields = validateChildren children mode path others := by
  induction children with
  | nil => rfl
  | cons child rest ih =>
    rw [validateChildren, validateChildren, ih fun other hother => h other (by simp [hother])]
    by_cases hderived : child.isDerived
    · simp only [hderived, if_true]
    · simp only [hderived, Bool.false_eq_true, if_false]
      rw [h child (by simp) (by simpa using hderived)]

/-- Every child of a valid section that is not computed has a valid entry. -/
theorem exists_of_validateChildren {children : List Element} {fields : OrderedMap Value}
    {entries : List (String × Value)}
    (h : validateChildren children mode path fields = .ok entries) {child : Element}
    (hchild : child ∈ children) (hplain : child.isDerived = false) :
    ∃ valid, (child.key, valid) ∈ entries ∧ child.validateAt mode (Path.join path child.key)
      ((fields.get? child.key).getD .null) = .ok valid := by
  induction children generalizing entries with
  | nil => cases hchild
  | cons first rest ih =>
    obtain ⟨valid, more, hvalid, hmore, rfl⟩ := validateChildren_cons_eq_ok.mp h
    rcases List.mem_cons.mp hchild with rfl | hmem
    · rw [if_neg (by simp [hplain])] at hvalid
      exact ⟨valid, by simp, hvalid⟩
    · obtain ⟨valid, hentry, hvalid⟩ := ih hmore hmem
      exact ⟨valid, by simp [hentry], hvalid⟩

/-- A valid section holds, under the name of each child that is not computed, the valid form of what
is there in the section that it was made from. -/
theorem exists_of_validateAt_keyed {children : List Element} {extraKeys : Bool}
    (hc : (keyed info children extraKeys).Checked)
    (hp : (keyed info children extraKeys).Everywhere Plain) {value document : Value}
    (hreads : mode.Reads value)
    (h : (keyed info children extraKeys).validateAt mode path value = .ok document) :
    ∃ fields result, info.sectionFields path value = .ok fields ∧ document = .map result ∧
      result.Distinct ∧ ∀ child ∈ children, child.isDerived = false → ∃ inner,
        result.get? child.key = some inner ∧ child.validateAt mode (Path.join path child.key)
          ((fields.get? child.key).getD .null) = .ok inner := by
  obtain ⟨fields, extras, entries, derived, hfields, hextras, hentries, hderived, rfl⟩ :=
    (validateAt_keyed_eq_ok hc hp hreads).mp h
  have hnames := map_fst_validateChildren hentries
  have hdistinct : derived.Distinct := by
    rw [OrderedMap.Distinct, keys_of_resolveDerived hnames hderived]
    exact hc.nodup_keys
  refine ⟨fields, _, hfields, rfl, OrderedMap.distinct_insertMany hdistinct extras, ?_⟩
  intro child hchild hplain
  obtain ⟨inner, hentry, hinner⟩ := exists_of_validateChildren hentries hchild hplain
  have hundeclared : child.key ∉ extras.map Prod.fst := fun hmem =>
    not_mem_of_undeclaredEntries hc hextras _ hmem (List.mem_map_of_mem hchild)
  refine ⟨inner, ?_, hinner⟩
  rw [OrderedMap.get?_insertMany_of_not_mem hundeclared]
  exact get?_of_resolveDerived hc.nodup_keys hnames hderived hchild hplain hentry

theorem readsAlike_keyed {children : List Element} {extraKeys : Bool}
    (hc : (keyed info children extraKeys).Checked)
    (hp : (keyed info children extraKeys).Everywhere Plain)
    (ih : ∀ child ∈ children, ∀ path value layer, value.Proper →
      child.validateAt .layer path value = .ok layer → child.ReadsAlike layer value)
    {raw : OrderedMap Value} {layer : Value} (hraw : (Value.map raw).Proper)
    (h : (keyed info children extraKeys).validateAt .layer path (.map raw) = .ok layer) :
    (keyed info children extraKeys).ReadsAlike layer (.map raw) := by
  obtain ⟨fields, extras, entries, derived, hfields, hextras, hentries, hderived, rfl⟩ :=
    (validateAt_keyed_eq_ok hc hp (.inr (by simp))).mp h
  obtain ⟨hd, hfolded, hproper⟩ := proper_of_foldKeys hraw hfields
  have hform := extraForm_of_undeclaredEntries hc hd hfolded hproper hextras
  have hnames := map_fst_validateChildren hentries
  have hdeclared : derived.keys.Sublist (children.map key) := by
    rw [keys_of_resolveDerived hnames hderived]
  have hlayer : derived.insertMany extras = ⟨derived.entries ++ extras⟩ :=
    OrderedMap.insertMany_of_disjoint hform.distinct fun name hname hkey =>
      hform.undeclared name hname (hdeclared.subset hkey)
  obtain ⟨hdistinct, hkeys⟩ := fields_of_extraForm hc hform hdeclared
  rw [hlayer]
  intro mode q
  have hread : info.sectionFields q (.map ⟨derived.entries ++ extras⟩) =
      .ok ⟨derived.entries ++ extras⟩ := Info.foldKeys_of_folded hdistinct hkeys
  have hgiven : info.sectionFields q (.map raw) = .ok fields :=
    (info.sectionFields_alike path q (.map raw) fields).mp hfields
  have hchildren : validateChildren children mode q ⟨derived.entries ++ extras⟩ =
      validateChildren children mode q fields := by
    refine validateChildren_congr fun child hchild hplain => ?_
    obtain ⟨valid, hentry, hvalid⟩ := exists_of_validateChildren hentries hchild hplain
    rw [get?_append_of_resolveDerived hc.nodup_keys hnames hderived hchild hplain hentry extras]
    exact ih child hchild _ _ _ (.getD hproper child.key) hvalid mode _
  rw [validateAt_keyed (.inr (by simp)), validateAt_keyed (.inr (by simp)), hread, hgiven,
    Outcome.ok_bind, Outcome.ok_bind, hchildren, undeclaredEntries_append hc hform hdeclared q,
    (undeclaredEntries_alike children extraKeys path q fields.entries extras).mp hextras]

/-! ## Categories -/

theorem readsAlike_category {item : Element} {minEntries : Nat} {defaultKey? : Option String}
    (hp : (category info item minEntries defaultKey?).Everywhere Plain)
    (ih : ∀ path value layer, value.Proper →
      item.validateAt .layer path value = .ok layer → item.ReadsAlike layer value)
    {raw : OrderedMap Value} {layer : Value} (hraw : (Value.map raw).Proper)
    (h : (category info item minEntries defaultKey?).validateAt .layer path (.map raw) =
      .ok layer) :
    (category info item minEntries defaultKey?).ReadsAlike layer (.map raw) := by
  have hnamed : ∀ fields, info.categoryFields path (.map raw) = .ok fields → fields.Distinct :=
    fun _ hfields => (categoryFields_eq_ok hraw hfields).1
  obtain ⟨fields, shared?, others, valids, hfields, hshared, hvalids, -, rfl⟩ :=
    (validateAt_category_eq_ok hp.entry.self (.inr (by simp)) (by simp) hnamed).mp h
  obtain ⟨hd, hfolded, hproper⟩ := categoryFields_eq_ok hraw hfields
  obtain ⟨hsublist, hgone, -⟩ := takeShared_eq_ok hd hshared
  have hkeys : valids.map Prod.fst = others.keys := map_fst_of_entryValid hvalids
  have hdistinct : OrderedMap.Distinct (⟨valids⟩ : OrderedMap Value) := by
    rw [OrderedMap.Distinct, OrderedMap.keys, hkeys]
    exact hd.sublist (hsublist.map _)
  have hfold : OrderedMap.Folded info.keyCase (⟨valids⟩ : OrderedMap Value) := by
    intro key hkey
    rw [OrderedMap.keys, hkeys] at hkey
    exact hfolded key ((hsublist.map _).subset hkey)
  intro mode q
  have hread : info.categoryFields q (.map ⟨valids⟩) = .ok ⟨valids⟩ :=
    Info.foldKeys_of_folded hdistinct hfold
  have hgiven : info.categoryFields q (.map raw) = .ok fields :=
    (info.categoryFields_alike path q (.map raw) fields).mp hfields
  -- the shared defaults have been taken out of the layer and put under its entries
  have hunshared : takeShared (fun path value => item.validateAt .layer path value) q defaultKey?
      ⟨valids⟩ = .ok (none, ⟨valids⟩) := by
    refine takeShared_of_not_mem fun key hkey => ?_
    rw [OrderedMap.keys, hkeys]
    exact hgone key hkey
  have htaken : takeShared (fun path value => item.validateAt .layer path value) q defaultKey?
      fields = .ok (shared?, others) :=
    (takeShared_alike (fun p q value => item.validateAt_alike .layer p q value) path q defaultKey?
      fields (shared?, others)).mp hshared
  have hloop : List.Forall₂ (fun valid entry => ∀ out,
      addEntry info item mode q none out valid = addEntry info item mode q shared? out entry)
      valids others.entries := by
    refine List.Forall₂.flip (((List.forall₂_and_left
      (p := fun entry => entry ∈ others.entries) _ _).mpr ⟨fun _ hentry => hentry, hvalids⟩).imp
      ?_)
    rintro entry ⟨key, valid⟩ ⟨hentry, hkey, -, hvalid⟩ out
    obtain rfl : key = entry.1 := hkey
    have hinner : (withShared shared? entry.2).Proper :=
      proper_of_takeShared hd hproper hshared hentry
    have halike : item.validateAt mode (Path.join q entry.1) (withShared none valid) =
        item.validateAt mode (Path.join q entry.1) (withShared shared? entry.2) :=
      ih _ _ _ hinner hvalid mode _
    rw [addEntry, addEntry, halike]
  rw [validateAt_category (.inr (by simp)), validateAt_category (.inr (by simp)), hread, hgiven,
    Outcome.ok_bind, Outcome.ok_bind, hunshared, htaken, Outcome.ok_bind, Outcome.ok_bind,
    Outcome.foldlM_congr hloop]

/-! ## Lists -/

theorem readsAlike_list {item : Element} {minLength? maxLength? : Option Nat}
    (hp : (list info item minLength? maxLength?).Everywhere Plain)
    (ih : ∀ path value layer, value.Proper →
      item.validateAt .layer path value = .ok layer → item.ReadsAlike layer value)
    {value layer : Value} (hvalue : value.Proper) (hnull : value ≠ .null)
    (h : (list info item minLength? maxLength?).validateAt .layer path value = .ok layer) :
    (list info item minLength? maxLength?).ReadsAlike layer value := by
  obtain ⟨items, valids, hitems, -, hvalids, -, rfl⟩ :=
    (validateAt_list_eq_ok hp.item.self (.inr hnull)).mp h
  have hproper := proper_of_listItems hvalue (fun heq => absurd heq hnull) hitems
  have hforall := Outcome.forall₂_of_mapM_zipIdx hvalids
  intro mode q
  have hgiven : info.listItems item q value = .ok items :=
    (info.listItems_alike item path q value items).mp hitems
  have hinner : List.Forall₂ (fun valid value => ∀ index : Nat,
      item.validateAt mode (Path.join q (toString index)) valid =
        item.validateAt mode (Path.join q (toString index)) value) valids items := by
    refine List.Forall₂.flip (((List.forall₂_and_left (p := Value.Proper) _ _).mpr
      ⟨hproper, hforall⟩).imp ?_)
    rintro inner valid ⟨hinner, index, hvalid⟩ position
    exact ih _ _ _ hinner hvalid mode _
  rw [validateAt_list (.inr (by simp)), validateAt_list (.inr hnull), hgiven,
    show info.listItems item q (.seq valids) = .ok valids from rfl, Outcome.ok_bind,
    Outcome.ok_bind, hforall.length_eq]
  rw [Outcome.mapM_zipIdx_congr hinner]

/-! ## Layers -/

/-- What is absent stays absent in a layer. -/
theorem readsAlike_null {element : Element} {layer : Value}
    (h : element.validateAt .layer path .null = .ok layer) :
    element.ReadsAlike layer .null := by
  rw [validateAt.eq_def] at h
  obtain rfl := Except.ok.inj h
  exact fun _ _ => rfl

/-- A valid layer is read like the value that it was made from. -/
theorem readsAlike_of_validateAt {element : Element} (hc : element.Checked)
    (hp : element.Everywhere Plain) {value layer : Value} (hvalue : value.Proper)
    (h : element.validateAt .layer path value = .ok layer) : element.ReadsAlike layer value := by
  -- null stays null in a layer, whatever the element
  induction element using Element.induction generalizing path value layer with
  | scalar info type =>
    rcases eq_or_ne value .null with rfl | hnull
    · exact readsAlike_null h
    · exact readsAlike_scalar hnull (validateAt_scalar (.inr hnull) ▸ h)
  | code info =>
    rcases eq_or_ne value .null with rfl | hnull
    · exact readsAlike_null h
    · exact readsAlike_code hnull (validateAt_code (.inr hnull) ▸ h)
  | keyed info children extraKeys ih =>
    cases value with
    | null => exact readsAlike_null h
    | map raw =>
      exact readsAlike_keyed hc hp (fun child hchild path value layer hvalue h =>
        ih child hchild (hc.child hchild).2.2 (hp.child hchild) hvalue h) hvalue h
    | _ => cases h
  | category info item minEntries defaultKey? ih =>
    cases value with
    | null => exact readsAlike_null h
    | map raw =>
      exact readsAlike_category hp (fun path value layer hvalue h =>
        ih hc.entry hp.entry hvalue h) hvalue h
    | _ => cases h
  | list info item minLength? maxLength? ih =>
    rcases eq_or_ne value .null with rfl | hnull
    · exact readsAlike_null h
    · exact readsAlike_list hp (fun path value layer hvalue h =>
        ih hc.item hp.item hvalue h) hvalue hnull h
  | derived info resolve =>
    cases value with
    | null => exact readsAlike_null h
    | _ => cases h

/-- A valid layer is valid as it stands, and as a whole document it is what the raw value is: the
same document, or refused for the same reason. -/
theorem validate_layer {schema : Element} (hcheck : schema.check = .ok ())
    (hp : schema.Everywhere Plain) {value layer : Value} (hvalue : value.Proper)
    (h : schema.validate .layer value = .ok layer) :
    schema.validate .layer layer = .ok layer ∧
      schema.validate .full layer = schema.validate .full value := by
  have hc : schema.Checked := ⟨"", false, hcheck⟩
  rw [hp.self.validate] at h
  have halike := readsAlike_of_validateAt hc hp hvalue h
  rw [hp.self.validate, hp.self.validate, hp.self.validate]
  exact ⟨(halike .layer "").trans h, halike .full ""⟩

/-- The layer of the raw fleet: its garages have their shared defaults, and what is absent is
null. -/
def fleetLayer : Value := .map ⟨[
  ("cars", .seq [.map ⟨[
    ("color", .str "red"),
    ("make", .str "Fiat"),
    ("year", .null),
    ("accessories", .null)]⟩]),
  ("garages", .map ⟨[
    ("north", .map ⟨[("spaces", .int 2), ("door", .null), ("city", .str "Oslo")]⟩)]⟩),
  ("notes", .str "one\ntwo\n"),
  ("car_count", .int 1)]⟩

/-- The layer of a fleet gives the document that the raw fleet gives. -/
theorem validate_layer_fleet :
    Samples.fleet.validate .layer fleetLayer = .ok fleetLayer ∧
      Samples.fleet.validate .full fleetLayer = Samples.fleet.validate .full fleetRaw :=
  validate_layer rfl replayable_fleet.plain proper_fleetRaw rfl

end ConfigSchema.Element
