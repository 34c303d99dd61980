import ConfigSchema.Element.Default
import ConfigSchema.Proofs.Element.Absent
import ConfigSchema.Proofs.Element.Layer

/-!
# The default and the empty document

The default of a schema is put together without validation, and validation fills in what an empty
document lacks. Both are the same configuration: whether the default is valid, and what it becomes
then, is told by the empty document. Declared defaults have to be valid documents as they stand.

## Main statements

- `Element.Checked.defaultStands` — such a default is read like a value that is given
- `Element.validateAt_defaultAt` — at any place, the default is read like null
- `Element.validate_defaultAt` — the default and the empty document are validated alike
-/

namespace ConfigSchema.Element

variable {info : Info} {path : String}

/-! ## Declared defaults -/

/-- A section that is valid as it stands has folded keys. -/
theorem foldKeys_of_validateAt_self {children : List Element} {extraKeys : Bool}
    (hc : (keyed info children extraKeys).Checked)
    (hp : (keyed info children extraKeys).Everywhere Plain) {fields : OrderedMap Value}
    (h : (keyed info children extraKeys).validateAt .full path (.map fields) =
      .ok (.map fields)) (q : String) : info.foldKeys q fields = .ok fields := by
  obtain ⟨read, extras, entries, derived, hread, hextras, hentries, hderived, heq⟩ :=
    (validateAt_keyed_eq_ok hc hp (.inl rfl)).mp h
  have hkeys : derived.keys = children.map key :=
    keys_of_resolveDerived (map_fst_validateChildren hentries) hderived
  obtain ⟨rfl, -⟩ := undeclaredEntries_eq_ok.mp hextras
  rw [Value.map.inj heq]
  refine Info.foldKeys_of_folded (OrderedMap.distinct_insertMany ?_ _) fun name hname => ?_
  · rw [OrderedMap.Distinct, hkeys]
    exact hc.nodup_keys
  -- the keys of a valid section are names, and undeclared keys that have been folded
  rcases OrderedMap.mem_keys_of_insertMany hname with hdeclared | hextra
  · rw [hkeys] at hdeclared
    obtain ⟨child, hchild, rfl⟩ := List.mem_map.mp hdeclared
    exact hc.apply_key hchild
  · obtain ⟨entry, hentry, rfl⟩ := List.mem_map.mp hextra
    exact Info.folded_of_foldKeys hread entry.1
      (List.mem_map_of_mem (List.mem_filter.mp hentry).1)

/-- A default that is a valid document as it stands is read like a value that is given. -/
theorem Checked.defaultStands {element : Element} (hc : element.Checked)
    (hp : element.Everywhere Plain) {default : Value}
    (hdefault : element.info.default? = some default) (hgiven : default ≠ .null)
    (hfixed : element.validate .full default = .ok default) : element.DefaultStands default := by
  cases element with
  | keyed info children extraKeys =>
    rintro fields rfl
    rw [hp.self.validate] at hfixed
    exact foldKeys_of_validateAt_self hc hp hfixed ""
  | list info item minLength? maxLength? =>
    rw [hp.self.validate] at hfixed
    obtain ⟨items, valids, -, -, -, -, rfl⟩ :=
      (validateAt_list_eq_ok hp.item.self (.inl rfl)).mp hfixed
    exact ⟨valids, rfl⟩
  | _ => exact hfixed

/-- A declared default is read like null, at any place. -/
theorem validateAt_of_fixed {element : Element} (hc : element.Checked)
    (hp : element.Everywhere Plain) {default : Value}
    (hdefault : element.info.default? = some default)
    (hfixed : element.validate .full default = .ok default) (path : String) :
    element.validateAt .full path default = element.validateAt .full path .null := by
  by_cases hgiven : default = .null
  · rw [hgiven]
  -- both are valid, and validity does not depend on the place
  have hnull : element.validate .full .null = .ok default := by
    rw [validate_null hc hp hdefault hgiven,
      fill_of_defaultStands hc hp hdefault hgiven (hc.defaultStands hp hdefault hgiven hfixed),
      hfixed]
  rw [hp.self.validate] at hfixed hnull
  rw [(element.validateAt_alike .full "" path default default).mp hfixed,
    (element.validateAt_alike .full "" path .null default).mp hnull]

/-! ## Sections -/

/-- The default of a section is made of those of its children, and null for the computed ones. -/
theorem defaultChildren_cons_eq_ok {child : Element} {rest : List Element}
    {entries : List (String × Value)} :
    defaultChildren (child :: rest) path = .ok entries ↔
      ∃ value more,
        (if child.isDerived then value = .null
          else child.defaultAt (Path.join path child.key) = .ok value) ∧
        defaultChildren rest path = .ok more ∧ entries = (child.key, value) :: more := by
  rw [defaultChildren]
  exact Outcome.cons_eq_ok

theorem map_fst_defaultChildren {children : List Element} {entries : List (String × Value)}
    (h : defaultChildren children path = .ok entries) :
    entries.map Prod.fst = children.map key := by
  induction children generalizing entries with
  | nil => simp [← Except.ok.inj h]
  | cons child rest ih =>
    obtain ⟨value, more, -, hmore, rfl⟩ := defaultChildren_cons_eq_ok.mp h
    rw [List.map_cons, List.map_cons, ih hmore]

/-- The default of a section holds the defaults of the children that are not computed. -/
theorem exists_of_defaultChildren {children : List Element} {entries : List (String × Value)}
    (h : defaultChildren children path = .ok entries) {child : Element}
    (hchild : child ∈ children) (hplain : child.isDerived = false) :
    ∃ value, (child.key, value) ∈ entries ∧
      child.defaultAt (Path.join path child.key) = .ok value := by
  induction children generalizing entries with
  | nil => cases hchild
  | cons first rest ih =>
    obtain ⟨value, more, hvalue, hmore, rfl⟩ := defaultChildren_cons_eq_ok.mp h
    rcases List.mem_cons.mp hchild with rfl | hmem
    · rw [if_neg (by simp [hplain])] at hvalue
      exact ⟨value, List.mem_cons_self, hvalue⟩
    · obtain ⟨value, hentry, hvalue⟩ := ih hmore hmem
      exact ⟨value, List.mem_cons_of_mem _ hentry, hvalue⟩

/-- The default of a section without a declared one is read like the section without entries, if
those of its children are read like null. -/
theorem validateAt_of_defaultChildren {children : List Element} {extraKeys : Bool}
    (hc : (keyed info children extraKeys).Checked) (hdefault : info.default? = none)
    (hrequired : info.required = false)
    (ih : ∀ child ∈ children, ∀ p value, child.defaultAt p = .ok value → ∀ path,
      child.validateAt .full path value = child.validateAt .full path .null)
    {p : String} {entries : List (String × Value)}
    (hentries : defaultChildren children p = .ok entries) {fields : OrderedMap Value}
    (hfields : resolveDerived p (.ofList entries) children = .ok fields)
    (path : String) :
    (keyed info children extraKeys).validateAt .full path (.map fields) =
      (keyed info children extraKeys).validateAt .full path .null := by
  have hnames := map_fst_defaultChildren hentries
  rw [OrderedMap.ofList_of_nodup (by rw [hnames]; exact hc.nodup_keys)] at hfields
  have hkeys := keys_of_resolveDerived hnames hfields
  have hread : info.sectionFields path (.map fields) = .ok fields := by
    refine Info.foldKeys_of_folded (by rw [OrderedMap.Distinct, hkeys]; exact hc.nodup_keys) ?_
    intro name hname
    rw [hkeys] at hname
    obtain ⟨child, hchild, rfl⟩ := List.mem_map.mp hname
    exact hc.apply_key hchild
  have hnull : info.sectionFields path .null = .ok .empty := by
    simp [Info.sectionFields, Info.absent, hdefault, hrequired, Value.asMap?, pure, Except.pure]
  -- the default has entries of the children only, so that nothing is undeclared in it
  have hextras : undeclaredEntries children extraKeys path fields.entries = .ok [] := by
    refine undeclaredEntries_eq_ok.mpr ⟨(List.filter_eq_nil_iff.mpr fun entry hentry => ?_).symm,
      .inr rfl⟩
    have hdeclared : entry.1 ∈ children.map key := hkeys ▸ List.mem_map_of_mem hentry
    simp [(any_isNamed_iff hc entry.1).mpr hdeclared]
  have hchildren : validateChildren children .full path fields =
      validateChildren children .full path .empty := by
    refine validateChildren_congr fun child hchild hplain => ?_
    obtain ⟨value, hentry, hvalue⟩ := exists_of_defaultChildren hentries hchild hplain
    rw [get?_of_resolveDerived hc.nodup_keys hnames hfields hchild hplain hentry]
    exact ih child hchild _ value hvalue _
  rw [validateAt_keyed (.inl rfl), validateAt_keyed (.inl rfl), hread, hnull, Outcome.ok_bind,
    Outcome.ok_bind, hextras, hchildren]
  rfl

/-! ## The whole -/

/-- A default that is not declared is read like null, if those of the parts are. -/
theorem validateAt_of_undeclared {element : Element} (hc : element.Checked)
    (ih : ∀ inner ∈ element.parts, ∀ p value, inner.defaultAt p = .ok value → ∀ path,
      inner.validateAt .full path value = inner.validateAt .full path .null)
    (hdefault : element.info.default? = none) {p : String} {document : Value}
    (h : element.defaultAt p = .ok document) (path : String) :
    element.validateAt .full path document = element.validateAt .full path .null := by
  rw [defaultAt.eq_def] at h
  simp only [hdefault] at h
  split at h
  · cases h
  rename_i hrequired
  replace hrequired : element.info.required = false := by simpa using hrequired
  cases element with
  | keyed info children extraKeys =>
    obtain ⟨entries, hentries, h⟩ := Outcome.bind_eq_ok.mp h
    split at h
    · rename_i fields hfields
      rw [← Outcome.pure_eq_ok.mp h]
      exact validateAt_of_defaultChildren hc hdefault hrequired ih hentries hfields path
    · cases h
  | category info item minEntries defaultKey? =>
    have hempty : info.foldKeys path .empty = .ok .empty :=
      Info.foldKeys_of_folded List.nodup_nil (by simp [OrderedMap.Folded, OrderedMap.keys,
        OrderedMap.empty])
    have hread : info.categoryFields path .emptyMap = info.categoryFields path .null := by
      have hoptional : (info.required && info.default?.isNone) = false := by
        rw [show info.required = false from hrequired, Bool.false_and]
      rw [Value.emptyMap, Info.categoryFields, Info.categoryFields, hempty, hoptional]
      rfl
    rw [← Except.ok.inj h, validateAt_category (.inl rfl), validateAt_category (.inl rfl), hread]
  | list info item minLength? maxLength? =>
    have hread : info.listItems item path (.seq []) = info.listItems item path .null := by
      simp only [Info.listItems, show info.default? = none from hdefault,
        show info.required = false from hrequired, Bool.false_eq_true, if_false]
    rw [← Except.ok.inj h, validateAt_list (.inl rfl), validateAt_list (.inl rfl), hread]
  | _ => rw [← Except.ok.inj h]

/-- At any place, the default of an element is read like null, whether this gives a document or a
failure. -/
theorem validateAt_defaultAt {element : Element} (hc : element.Checked)
    (hp : element.Everywhere Plain)
    (hfixed : element.Everywhere HasFixedDefault) {p : String} {document : Value}
    (h : element.defaultAt p = .ok document) (path : String) :
    element.validateAt .full path document = element.validateAt .full path .null := by
  induction element using induction_parts generalizing p document path with
  | h element ih =>
    cases hdefault : element.info.default? with
    | some default =>
      rw [defaultAt.eq_def] at h
      simp only [hdefault] at h
      obtain rfl := Except.ok.inj h
      exact validateAt_of_fixed hc hp hdefault (hfixed.self.fixed _ hdefault) path
    | none =>
      refine validateAt_of_undeclared hc (fun inner hinner p value hvalue q => ?_) hdefault h path
      exact ih inner hinner (hc.within (.part hinner .self)) (hp.of_part hinner)
        (hfixed.of_part hinner) hvalue q

/-- The default and the empty document are the same configuration: they are validated to the same
document, or refused with the same failure. -/
theorem validate_defaultAt {schema : Element} (hcheck : schema.check = .ok ())
    (hp : schema.Everywhere Plain)
    (hfixed : schema.Everywhere HasFixedDefault) {document : Value}
    (h : schema.defaultAt "" = .ok document) :
    schema.validate .full document = schema.validate .full .null := by
  rw [hp.self.validate, hp.self.validate]
  exact validateAt_defaultAt ⟨"", false, hcheck⟩ hp hfixed h ""

/-- Boxes for dogs, of which one is there from the start, and the names of the dogs. -/
def kennel : Element :=
  let box : Element :=
    .keyed {} [.scalar { name? := some "dogs", default? := some (.int 2) } .int] true
  let firstBox : Value := .map ⟨[("one", .map ⟨[("dogs", .int 3), ("roof", .bool true)]⟩)]⟩
  .keyed {} [
    .category { name? := some "boxes", default? := some firstBox } box 0 none,
    .list { name? := some "names" } (.scalar {} .str) none none,
    .derived { name? := some "box_count" } fun siblings =>
      .ok (.int (.ofNat (((siblings.get? "boxes").bind Value.asMap?).getD .empty).size))] false

/-- A kennel without dogs has its first box, and the default says so too. -/
theorem validate_defaultAt_kennel :
    ∃ document, kennel.defaultAt "" = .ok document ∧
      kennel.validate .full document = kennel.validate .full .null ∧
      kennel.validate .full .null = .ok document := by
  have hp : kennel.Everywhere Plain := by
    simp [kennel, Everywhere.keyed_iff, Everywhere.category_iff, Everywhere.list_iff,
      Everywhere.scalar_iff, Everywhere.derived_iff, info]
  have hfixed : kennel.Everywhere HasFixedDefault := by
    simp only [kennel, Everywhere.keyed_iff, Everywhere.category_iff, Everywhere.list_iff,
      Everywhere.scalar_iff, Everywhere.derived_iff, List.forall_mem_cons]
    have hbox : HasFixedDefault
        (scalar { name? := some "dogs", default? := some (.int 2) } .int) := .of_fixed rfl rfl
    exact ⟨.of_none rfl, ⟨.of_fixed rfl rfl, .of_none rfl, hbox, by simp⟩,
      ⟨.of_none rfl, .of_none rfl⟩, .of_none rfl, by simp⟩
  exact ⟨_, rfl, validate_defaultAt rfl hp hfixed rfl, rfl⟩

end ConfigSchema.Element
