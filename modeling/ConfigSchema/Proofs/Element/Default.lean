import ConfigSchema.Proofs.Element.Layer

/-!
# What a valid default may lack

A declared default is checked as a layer, where nothing is required. As a whole document it can
still be refused, and so can a document that leaves the entry out. But then a part of the schema
demands what the default lacks: nothing that the default does say is wrong.

## Main definitions

- `Element.Asks` — an element refuses a value for what it demands of whole documents only
- `Element.Demands` — a part of the schema does so

## Main statements

- `Element.demands_of_validateAt` — what is valid as a layer is refused as a document only for what
  it lacks
- `Element.validate_default` — so is a declared default
- `Element.validate_default_refused` — a default that lacks a required entry passes the check
-/

namespace ConfigSchema.Element

variable {info : Info} {path : String}

/-- The failures with which an element refuses a document for what it lacks, at any place. -/
inductive Asks : Element → Failure → Prop
  /-- A required value is absent, and there is no default that is taken. -/
  | missing (element : Element) (hrequired : element.info.required)
      (hdefault : element.info.default? = none ∨ element.isList) (path : String) :
      Asks element (.missing path)
  | emptyList {info : Info} {item : Element} {minLength? maxLength? : Option Nat}
      (hrequired : info.required) (path : String) :
      Asks (list info item minLength? maxLength?) (.invalid path .emptyRequiredList)
  /-- A list is absent that may not be empty. -/
  | tooFewItems {info : Info} {item : Element} {least : Nat} {maxLength? : Option Nat}
      (hleast : 0 < least) (path : String) :
      Asks (list info item (some least) maxLength?) (.invalid path (.tooFewItems least 0))
  | tooFewEntries {info : Info} {item : Element} {least found : Nat} {defaultKey? : Option String}
      (hleast : found < least) (path : String) :
      Asks (category info item least defaultKey?) (.invalid path (.tooFewEntries least found))
  /-- A section is absent whose default has keys in capitals: in its place these are not folded. -/
  | unfolded {info : Info} {children : List Element} (hcase : info.keyCase = .lower)
      (hdefault : info.default?.isSome) (path : String) :
      Asks (keyed info children false) (.unknown path)
  | underivable {info : Info} {resolve : OrderedMap Value → Except String Value}
      {entries : OrderedMap Value} {reason : String} (h : resolve entries = .error reason)
      (path : String) : Asks (derived info resolve) (.invalid path (.underivable reason))

/-- A part of the schema refuses a document for what it lacks. -/
def Demands (schema : Element) (failure : Failure) : Prop :=
  ∃ part : Element, part.Within schema ∧ part.Asks failure

theorem Asks.demands {element : Element} {failure : Failure} (h : element.Asks failure) :
    element.Demands failure := ⟨element, .self, h⟩

theorem Demands.of_part {element inner : Element} {failure : Failure}
    (hinner : inner ∈ element.parts) (h : inner.Demands failure) : element.Demands failure := by
  obtain ⟨part, hpart, hasks⟩ := h
  exact ⟨part, .part hinner hpart, hasks⟩

/-! ## Failures of the steps -/

theorem absent_eq_error {failure : Failure} :
    info.absent path = .error failure ↔
      info.default? = none ∧ info.required ∧ failure = .missing path := by
  unfold Info.absent
  cases info.default? with
  | some default => simp
  | none => cases info.required <;> simp [eq_comm]

/-- The declared entries fail with one of them. -/
theorem exists_of_validateChildren_error {children : List Element} {mode : Mode}
    {fields : OrderedMap Value} {failure : Failure}
    (h : validateChildren children mode path fields = .error failure) :
    ∃ child ∈ children, child.isDerived = false ∧
      child.validateAt mode (Path.join path child.key) ((fields.get? child.key).getD .null) =
        .error failure := by
  induction children with
  | nil => cases h
  | cons child rest ih =>
    by_cases hrest : validateChildren rest mode path fields = .error failure
    · obtain ⟨other, hother, hfailure⟩ := ih hrest
      exact ⟨other, List.mem_cons_of_mem _ hother, hfailure⟩
    · refine ⟨child, List.mem_cons_self .., ?_⟩
      rw [validateChildren] at h
      by_cases hderived : child.isDerived
      · simp [hderived, Outcome.bind_eq_error, hrest, pure, Except.pure] at h
      · simpa [hderived, Outcome.bind_eq_error, hrest, pure, Except.pure] using h

/-- Computing entries fails with a resolver. -/
theorem exists_of_resolveDerived_error {children : List Element} {entries : OrderedMap Value}
    {failure : Failure} (h : resolveDerived path entries children = .error failure) :
    ∃ child ∈ children, child.Asks failure := by
  induction children generalizing entries with
  | nil => cases h
  | cons child rest ih =>
    have hrest : ∀ entries, resolveDerived path entries rest = .error failure →
        ∃ other ∈ child :: rest, other.Asks failure := by
      intro entries h
      obtain ⟨other, hother, hasks⟩ := ih h
      exact ⟨other, List.mem_cons_of_mem _ hother, hasks⟩
    cases child with
    | derived info resolve =>
      rw [resolveDerived] at h
      split at h
      · exact hrest _ h
      · rename_i reason hreason
        obtain rfl := Except.error.inj h
        exact ⟨_, List.mem_cons_self .., .underivable hreason _⟩
    | _ => exact hrest entries h

/-- Without last steps, finishing the children of a section does not fail. -/
theorem finishChildren_ne_error {children : List Element}
    (hp : ∀ child ∈ children, child.Plain) {fields : OrderedMap Value}
    {failure : Failure} : finishChildren path children fields ≠ .error failure := by
  intro h
  obtain ⟨child, hchild, fields, hstep⟩ := Outcome.exists_of_foldlM_error h
  rw [finishEntry, (hp child hchild).finish] at hstep
  cases hstep

/-- An undeclared entry is refused where there may be none. -/
theorem undeclaredEntries_eq_error {children : List Element} {extraKeys : Bool}
    {entries : List (String × Value)} {failure : Failure}
    (h : undeclaredEntries children extraKeys path entries = .error failure) :
    extraKeys = false ∧ ∃ q, failure = .unknown q := by
  induction entries with
  | nil => cases h
  | cons entry rest ih =>
    obtain ⟨key, value⟩ := entry
    rw [undeclaredEntries] at h
    split at h
    · exact ih h
    · split at h
      · rcases Outcome.bind_eq_error.mp h with hrest | ⟨more, -, hpure⟩
        · exact ih hrest
        · cases hpure
      · rename_i hextra
        exact ⟨by simpa using hextra, _, (Except.error.inj h).symm⟩

/-- The length zero is refused only by a least length. -/
theorem checkLength_zero_eq_error {minLength? maxLength? : Option Nat} {failure : Failure}
    (h : checkLength path minLength? maxLength? 0 = .error failure) :
    ∃ least, minLength? = some least ∧ 0 < least ∧
      failure = .invalid path (.tooFewItems least 0) := by
  unfold checkLength at h
  split at h
  · rename_i least hleast
    obtain ⟨hsome, hpos⟩ := Option.filter_eq_some_iff.mp hleast
    exact ⟨least, hsome, by simpa using hpos, (Except.error.inj h).symm⟩
  · rename_i most _ hmost
    obtain ⟨-, hneg⟩ := Option.filter_eq_some_iff.mp hmost
    simp at hneg
  · cases h

/-! ## Sections -/

theorem validateAt_layer_null (element : Element) (path : String) :
    element.validateAt .layer path .null = .ok .null := by
  rw [validateAt.eq_def]
  rfl

/-- A section that is valid as a layer has no undeclared entries too many, and its children are
valid as layers. -/
theorem exists_of_layer_map {children : List Element} {extraKeys : Bool}
    {raw : OrderedMap Value} {layer : Value}
    (h : (keyed info children extraKeys).validateAt .layer path (.map raw) = .ok layer) :
    ∃ fields extras, info.foldKeys path raw = .ok fields ∧
      undeclaredEntries children extraKeys path fields.entries = .ok extras ∧
      ∀ child ∈ children, child.isDerived = false → ∃ q valid,
        child.validateAt .layer q ((fields.get? child.key).getD .null) = .ok valid := by
  rw [validateAt_keyed (.inr (by simp))] at h
  obtain ⟨fields, hfields, h⟩ := Outcome.bind_eq_ok.mp h
  obtain ⟨extras, hextras, h⟩ := Outcome.bind_eq_ok.mp h
  obtain ⟨entries, hentries, -⟩ := Outcome.bind_eq_ok.mp h
  refine ⟨fields, extras, hfields, hextras, fun child hchild hplain => ?_⟩
  obtain ⟨valid, -, hvalid⟩ := exists_of_validateChildren hentries hchild hplain
  exact ⟨_, valid, hvalid⟩

variable {children : List Element} {extraKeys : Bool} {failure : Failure}

/-- A section whose children are valid as layers is refused as a document only for what it lacks. -/
theorem demands_of_fields (hp : ∀ child ∈ children, child.Plain)
    (ih : ∀ child ∈ children, child.isDerived = false → ∀ p q value layer,
      child.validateAt .layer p value = .ok layer →
      child.validateAt .full q value = .error failure → child.Demands failure)
    {fields : OrderedMap Value} (hlayer : ∀ child ∈ children, child.isDerived = false →
      ∃ q valid, child.validateAt .layer q ((fields.get? child.key).getD .null) = .ok valid)
    {extras : List (String × Value)}
    (h : (do
      let entries ← validateChildren children .full path fields
      let derived ← resolveDerived path (.ofList entries) children
      return .map (← finishChildren path children (derived.insertMany extras)) :
        Except Failure Value) = .error failure) :
    (keyed info children extraKeys).Demands failure := by
  rcases Outcome.bind_eq_error.mp h with hchildren | ⟨entries, -, h⟩
  · obtain ⟨child, hchild, hplain, hfailure⟩ := exists_of_validateChildren_error hchildren
    obtain ⟨q, valid, hvalid⟩ := hlayer child hchild hplain
    exact (ih child hchild hplain _ _ _ _ hvalid hfailure).of_part hchild
  rcases Outcome.bind_eq_error.mp h with hderived | ⟨derived, -, h⟩
  · obtain ⟨child, hchild, hasks⟩ := exists_of_resolveDerived_error hderived
    exact hasks.demands.of_part hchild
  rcases Outcome.bind_eq_error.mp h with hfinish | ⟨final, -, h⟩
  · exact absurd hfinish (finishChildren_ne_error hp)
  · cases h

/-- An absent section is read from its default, whose children are valid as layers. Its keys are not
folded, which may leave entries that are not declared. -/
theorem exists_of_default_section (hc : (keyed info children extraKeys).Checked)
    {default : Value} (hdefault : info.absent path = .ok default) :
    (∀ child ∈ children, child.isDerived = false → ∃ q valid, child.validateAt .layer q
        ((((default.asMap?).getD .empty).get? child.key).getD .null) = .ok valid) ∧
      ∀ failure, undeclaredEntries children extraKeys path
          ((default.asMap?).getD .empty).entries = .error failure →
        (keyed info children extraKeys).Asks failure := by
  cases default with
  | map raw =>
    have hsome : info.default? = some (.map raw) := by
      rcases Info.absent_eq_ok.mp hdefault with hsome | ⟨-, -, hnull⟩
      · exact hsome
      · cases hnull
    obtain ⟨q, layer, hlayer⟩ := hc.valid_default hsome
    obtain ⟨fields, extras, hfields, hextras, hchildren⟩ := exists_of_layer_map hlayer
    constructor
    · intro child hchild hplain
      show ∃ q valid, child.validateAt .layer q ((raw.get? child.key).getD .null) = .ok valid
      cases hget : raw.get? child.key with
      | none => exact ⟨"", .null, validateAt_layer_null child ""⟩
      | some value =>
        have hvalid := hchildren child hchild hplain
        rwa [Info.get?_of_foldKeys_self hfields (hc.apply_key hchild) hget] at hvalid
    · intro failure hfailure
      obtain ⟨rfl, q, rfl⟩ := undeclaredEntries_eq_error hfailure
      refine .unfolded ?_ (by simp [hsome]) q
      cases hcase : info.keyCase with
      | lower => rfl
      | upper => exact absurd hcase hc.keyCase
      | mixed =>
        -- the keys stay as they are, and have been declared as a layer
        rw [Info.foldKeys, hcase] at hfields
        obtain rfl := Except.ok.inj hfields
        have hextras :=
          (undeclaredEntries_alike children false _ path raw.entries extras).mp hextras
        rw [show undeclaredEntries children false path raw.entries = _ from hfailure] at hextras
        cases hextras
  | _ =>
    constructor
    · intro child _ _
      exact ⟨"", .null, validateAt_layer_null child ""⟩
    · intro failure hfailure
      cases hfailure

theorem demands_of_validateAt_keyed (hc : (keyed info children extraKeys).Checked)
    (hp : ∀ child ∈ children, child.Plain)
    (ih : ∀ child ∈ children, child.isDerived = false → ∀ p q value layer,
      child.validateAt .layer p value = .ok layer →
      child.validateAt .full q value = .error failure → child.Demands failure)
    {p : String} {value layer : Value}
    (hlayer : (keyed info children extraKeys).validateAt .layer p value = .ok layer)
    (h : (keyed info children extraKeys).validateAt .full path value = .error failure) :
    (keyed info children extraKeys).Demands failure := by
  rw [validateAt_keyed (.inl rfl)] at h
  cases value with
  | null =>
    rcases Outcome.bind_eq_error.mp h with hfields | ⟨fields, hfields, h⟩
    · rcases Outcome.bind_eq_error.mp hfields with habsent | ⟨_, -, hpure⟩
      · obtain ⟨hnone, hrequired, rfl⟩ := absent_eq_error.mp habsent
        exact (Asks.missing (keyed info children extraKeys) hrequired (.inl hnone) path).demands
      · cases hpure
    · obtain ⟨default, habsent, hpure⟩ := Outcome.bind_eq_ok.mp hfields
      obtain rfl := Outcome.pure_eq_ok.mp hpure
      obtain ⟨hchildren, hundeclared⟩ := exists_of_default_section hc habsent
      rcases Outcome.bind_eq_error.mp h with hextras | ⟨extras, -, h⟩
      · exact (hundeclared failure hextras).demands
      · exact demands_of_fields hp ih hchildren h
  | map raw =>
    obtain ⟨fields, extras, hfields, hextras, hchildren⟩ := exists_of_layer_map hlayer
    have hread : info.sectionFields path (.map raw) = .ok fields :=
      (info.foldKeys_alike p path raw fields).mp hfields
    rw [hread, Outcome.ok_bind, (undeclaredEntries_alike children extraKeys p path _ extras).mp
      hextras, Outcome.ok_bind] at h
    exact demands_of_fields hp ih hchildren h
  | _ => cases hlayer

/-! ## Categories and lists -/

variable {item : Element}

theorem demands_of_validateAt_category {minEntries : Nat} {defaultKey? : Option String}
    (hp : item.Plain)
    (ih : ∀ p q value layer, item.validateAt .layer p value = .ok layer →
      item.validateAt .full q value = .error failure → item.Demands failure)
    {p : String} {value layer : Value}
    (hlayer : (category info item minEntries defaultKey?).validateAt .layer p value = .ok layer)
    (h : (category info item minEntries defaultKey?).validateAt .full path value =
      .error failure) :
    (category info item minEntries defaultKey?).Demands failure := by
  -- what follows on the entries fails only if they are too few
  have hfew : ∀ entries : OrderedMap Value, (do
      if entries.size < minEntries then
        throw (.invalid path (.tooFewEntries minEntries entries.size))
      return .map (← item.finishEntries path entries) : Except Failure Value) = .error failure →
      (category info item minEntries defaultKey?).Asks failure := by
    intro entries h
    by_cases hsize : entries.size < minEntries
    · rw [if_pos hsize] at h
      obtain rfl := Except.error.inj h
      exact .tooFewEntries hsize path
    · rw [if_neg hsize, finishEntries_of_finish hp.finish] at h
      cases h
  rw [validateAt_category (.inl rfl)] at h
  cases value with
  | null =>
    rcases Outcome.bind_eq_error.mp h with hfields | ⟨fields, hfields, h⟩
    · simp only [Info.categoryFields] at hfields
      split at hfields
      · rename_i hmissing
        obtain rfl := Except.error.inj hfields
        rw [Bool.and_eq_true, Option.isNone_iff_eq_none] at hmissing
        exact (Asks.missing (category info item minEntries defaultKey?) hmissing.1
          (.inl hmissing.2) path).demands
      · cases hfields
    · rw [Info.eq_empty_of_categoryFields hfields, takeShared_empty, Outcome.ok_bind] at h
      exact (hfew _ h).demands
  | map raw =>
    rw [validateAt_category (.inr (by simp))] at hlayer
    obtain ⟨fields, hfields, hlayer⟩ := Outcome.bind_eq_ok.mp hlayer
    obtain ⟨shared, hshared, hlayer⟩ := Outcome.bind_eq_ok.mp hlayer
    obtain ⟨entries, hentries, -⟩ := Outcome.bind_eq_ok.mp hlayer
    rw [(info.categoryFields_alike p path _ fields).mp hfields, Outcome.ok_bind,
      (takeShared_alike (fun p q value => item.validateAt_alike .layer p q value) p path
        defaultKey? fields shared).mp hshared, Outcome.ok_bind] at h
    rcases Outcome.bind_eq_error.mp h with hloop | ⟨entries, -, h⟩
    · -- the same entry has been added to the layer, so that only its own value can be refused
      obtain ⟨entry, hentry, out, hstep⟩ := Outcome.exists_of_foldlM_error hloop
      obtain ⟨_, _, hdone⟩ := Outcome.exists_of_foldlM_eq_ok hentries hentry
      obtain ⟨_, hkey, hdone⟩ := Outcome.bind_eq_ok.mp hdone
      obtain ⟨valid, hvalid, -⟩ := Outcome.bind_eq_ok.mp hdone
      rw [addEntry, (info.checkKey_alike _ (Path.join path entry.1) entry.1 ()).mp hkey,
        Outcome.ok_bind] at hstep
      rcases Outcome.bind_eq_error.mp hstep with hitem | ⟨_, -, hpure⟩
      · exact (ih _ _ _ _ hvalid hitem).of_part (List.mem_singleton.mpr rfl)
      · cases hpure
    · exact (hfew _ h).demands
  | _ => cases hlayer

/-- Items that are valid as layers make a list that is refused only for what it lacks. -/
theorem demands_of_items {minLength? maxLength? : Option Nat} (hp : item.Plain)
    (ih : ∀ p q value layer, item.validateAt .layer p value = .ok layer →
      item.validateAt .full q value = .error failure → item.Demands failure)
    {items : List Value} (hlayer : ∀ value ∈ items, ∃ q valid,
      item.validateAt .layer q value = .ok valid)
    (h : (do
      let valid ← items.zipIdx.mapM fun (value, index) =>
        item.validateAt .full (Path.join path (toString index)) value
      if info.required && Mode.full == .full && valid.isEmpty then
        throw (.invalid path .emptyRequiredList)
      return .seq (← item.finishItems path valid) : Except Failure Value) = .error failure) :
    (list info item minLength? maxLength?).Demands failure := by
  rcases Outcome.bind_eq_error.mp h with hitems | ⟨valids, -, h⟩
  · obtain ⟨⟨value, index⟩, hmem, hfailure⟩ := Outcome.exists_of_mapM_error hitems
    obtain ⟨q, valid, hvalid⟩ := hlayer value (List.fst_mem_of_mem_zipIdx hmem)
    exact (ih _ _ _ _ hvalid hfailure).of_part (List.mem_singleton.mpr rfl)
  · split at h
    · rename_i hempty
      obtain rfl := Except.error.inj h
      have hasks : (list info item minLength? maxLength?).Asks
          (.invalid path .emptyRequiredList) :=
        .emptyList (by simp only [Bool.and_eq_true] at hempty; exact hempty.1.1) path
      exact hasks.demands
    · rw [finishItems_of_finish hp.finish] at h
      cases h

/-- The items of a list that is valid as a layer are valid as layers, and there are enough. -/
theorem exists_of_layer_list {minLength? maxLength? : Option Nat} {value layer : Value}
    (hnull : value ≠ .null)
    (h : (list info item minLength? maxLength?).validateAt .layer path value = .ok layer) :
    ∃ items, info.listItems item path value = .ok items ∧
      checkLength path minLength? maxLength? items.length = .ok () ∧
      ∀ value ∈ items, ∃ q valid, item.validateAt .layer q value = .ok valid := by
  rw [validateAt_list (.inr hnull)] at h
  obtain ⟨items, hitems, h⟩ := Outcome.bind_eq_ok.mp h
  obtain ⟨⟨⟩, hlength, h⟩ := Outcome.bind_eq_ok.mp h
  obtain ⟨valids, hvalids, -⟩ := Outcome.bind_eq_ok.mp h
  refine ⟨items, hitems, hlength, fun value hvalue => ?_⟩
  obtain ⟨valid, -, index, hvalid⟩ :=
    Outcome.exists_of_forall₂ (Outcome.forall₂_of_mapM_zipIdx hvalids).flip hvalue
  exact ⟨_, valid, hvalid⟩

theorem demands_of_validateAt_list {minLength? maxLength? : Option Nat}
    (hc : (list info item minLength? maxLength?).Checked) (hp : item.Plain)
    (ih : ∀ p q value layer, item.validateAt .layer p value = .ok layer →
      item.validateAt .full q value = .error failure → item.Demands failure)
    {p : String} {value layer : Value}
    (hlayer : (list info item minLength? maxLength?).validateAt .layer p value = .ok layer)
    (h : (list info item minLength? maxLength?).validateAt .full path value = .error failure) :
    (list info item minLength? maxLength?).Demands failure := by
  rw [validateAt_list (.inl rfl)] at h
  by_cases hnull : value = .null
  · subst hnull
    by_cases hseq : ∃ items, info.default? = some (.seq items)
    · -- the items of the default have been checked as those of a layer
      obtain ⟨items, hdefault⟩ := hseq
      obtain ⟨q, layer, hvalid⟩ := hc.valid_default hdefault
      obtain ⟨_, hitems, hlength, hinner⟩ := exists_of_layer_list (by simp) hvalid
      obtain rfl := Except.ok.inj hitems
      have hread : info.listItems item path .null = .ok items := by
        simp only [Info.listItems, hdefault]
      rw [hread, Outcome.ok_bind,
        (checkLength_alike q path minLength? maxLength? items.length ()).mp hlength,
        Outcome.ok_bind] at h
      exact demands_of_items hp ih hinner h
    · have hread : info.listItems item path .null =
          if info.required then .error (.missing path) else .ok [] := by
        simp only [Info.listItems]
        split
        · exact absurd ⟨_, ‹_›⟩ hseq
        · rfl
      rw [hread] at h
      by_cases hrequired : info.required
      · rw [if_pos hrequired] at h
        obtain rfl := Except.error.inj h
        exact (Asks.missing (list info item minLength? maxLength?) hrequired (.inr rfl)
          path).demands
      · rw [if_neg hrequired, Outcome.ok_bind] at h
        rcases Outcome.bind_eq_error.mp h with hlength | ⟨⟨⟩, -, h⟩
        · obtain ⟨least, rfl, hpos, rfl⟩ := checkLength_zero_eq_error hlength
          exact (Asks.tooFewItems hpos path).demands
        · exact demands_of_items hp ih (by simp) h
  · obtain ⟨items, hitems, hlength, hinner⟩ := exists_of_layer_list hnull hlayer
    rw [(info.listItems_alike item p path value items).mp hitems, Outcome.ok_bind,
      (checkLength_alike p path minLength? maxLength? items.length ()).mp hlength,
      Outcome.ok_bind] at h
    exact demands_of_items hp ih hinner h

/-! ## All elements -/

/-- What is valid as a layer is refused as a document only for what it lacks. -/
theorem demands_of_validateAt {element : Element} (hc : element.Checked)
    (hp : element.Everywhere Plain)
    (hplain : element.isDerived = false) {p : String} {value layer : Value}
    (hlayer : element.validateAt .layer p value = .ok layer)
    (h : element.validateAt .full path value = .error failure) : element.Demands failure := by
  -- the defaults of a part are values of its children, so the induction is on the element alone
  induction element using Element.induction generalizing path p value layer failure with
  | scalar info type =>
    rw [validateAt_scalar (.inl rfl)] at h
    rcases eq_or_ne value .null with rfl | hnull
    · obtain ⟨hnone, hrequired, rfl⟩ := absent_eq_error.mp h
      exact (Asks.missing (scalar info type) hrequired (.inl hnone) path).demands
    · rw [validateAt_scalar (.inr hnull)] at hlayer
      rw [(info.validateScalar_alike type p path value layer).mp hlayer] at h
      cases h
  | code info =>
    rw [validateAt_code (.inl rfl)] at h
    rcases eq_or_ne value .null with rfl | hnull
    · obtain ⟨hnone, hrequired, rfl⟩ := absent_eq_error.mp h
      exact (Asks.missing (code info) hrequired (.inl hnone) path).demands
    · rw [validateAt_code (.inr hnull)] at hlayer
      rw [(info.validateCode_alike p path value layer).mp hlayer] at h
      cases h
  | keyed info children extraKeys ih =>
    refine demands_of_validateAt_keyed hc (fun child hchild => (hp.child hchild).self) ?_ hlayer h
    intro child hchild hplain p q value layer hlayer h
    exact ih child hchild (hc.child hchild).2.2 (hp.child hchild) hplain hlayer h
  | category info item minEntries defaultKey? ih =>
    exact demands_of_validateAt_category hp.entry.self
      (fun _ _ _ _ hlayer h => ih hc.entry hp.entry hc.entry_not_derived hlayer h) hlayer h
  | list info item minLength? maxLength? ih =>
    exact demands_of_validateAt_list hc hp.item.self
      (fun _ _ _ _ hlayer h => ih hc.item hp.item hc.item_not_derived hlayer h) hlayer h
  | derived info resolve => cases hplain

/-- A declared default is valid as a layer. As a document, the default or nothing in its place is
refused only for what it lacks, and the default of a scalar or a code block is never refused. -/
theorem validate_default {schema part : Element} (hcheck : schema.check = .ok ())
    (hp : schema.Everywhere Plain) (hpart : part.Within schema)
    {default : Value} (hdefault : part.info.default? = some default) (hgiven : default ≠ .null) :
    (∃ layer, part.validate .layer default = .ok layer) ∧
      (∀ value ∈ [default, .null], ∀ failure,
        part.validate .full value = .error failure → part.Demands failure) ∧
      (part.isLeaf → ∃ document, part.validate .full default = .ok document) := by
  have hc : part.Checked := Checked.within ⟨"", false, hcheck⟩ hpart
  replace hp : part.Everywhere Plain := hp.of_within hpart
  simp only [hp.self.validate]
  obtain ⟨path, layer, hlayer⟩ := hc.valid_default hdefault
  have hplain : part.isDerived = false := by
    cases part with
    | derived info resolve =>
      rw [validateAt.eq_def] at hlayer
      cases default with
      | null => exact absurd rfl hgiven
      | _ => cases hlayer
    | _ => rfl
  have hroot : part.validateAt .layer "" default = .ok layer :=
    (part.validateAt_alike .layer path "" default layer).mp hlayer
  refine ⟨⟨layer, hroot⟩, ?_, ?_⟩
  · intro value hvalue failure h
    rcases List.mem_cons.mp hvalue with rfl | hnull
    · exact demands_of_validateAt hc hp hplain hroot h
    · obtain rfl := List.mem_singleton.mp hnull
      exact demands_of_validateAt hc hp hplain (validateAt_layer_null part "") h
  · intro hleaf
    cases part with
    | scalar info type =>
      rw [validateAt_scalar (.inr hgiven)] at hroot
      exact ⟨layer, by rw [validateAt_scalar (.inl rfl), hroot]⟩
    | code info =>
      rw [validateAt_code (.inr hgiven)] at hroot
      exact ⟨layer, by rw [validateAt_code (.inl rfl), hroot]⟩
    | _ => cases hleaf

/-- A section with a required entry, and a default without it. -/
def lackingSection : Element :=
  keyed { default? := some (.map ⟨[]⟩) } [scalar { name? := some "a", required := true } .int] false

theorem unfinished_lackingSection :
    lackingSection.Everywhere Plain := by
  refine .of_parts ⟨rfl⟩ fun inner hinner => ?_
  obtain rfl := List.mem_singleton.mp hinner
  exact .of_parts ⟨rfl⟩ (by simp [parts])

/-- The default of the section is valid as a layer, and the section is refused as a document for the
entry that the default lacks. -/
theorem validate_default_lackingSection :
    (∃ layer, lackingSection.validate .layer (.map ⟨[]⟩) = .ok layer) ∧
      lackingSection.Demands (.missing "a") := by
  obtain ⟨hlayer, hdemands, -⟩ := validate_default rfl unfinished_lackingSection .self
    (show lackingSection.info.default? = some (.map ⟨[]⟩) from rfl) (by simp)
  exact ⟨hlayer, hdemands (.map ⟨[]⟩) (by simp) _ rfl⟩

/-- A default that passes the check may be refused as a document, and so may a document that leaves
the entry out. -/
theorem validate_default_refused :
    ∃ (schema : Element) (default : Value), schema.check = .ok () ∧
      (schema.Everywhere Plain) ∧
      schema.info.default? = some default ∧ default ≠ .null ∧
      schema.validate .full default = .error (.missing "a") ∧
      schema.validate .full .null = .error (.missing "a") :=
  ⟨lackingSection, .map ⟨[]⟩, rfl, unfinished_lackingSection, rfl, by simp, rfl, rfl⟩

end ConfigSchema.Element
