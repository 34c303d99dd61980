import ConfigSchema.Proofs.Element.Sections

/-!
# Documents in their form are valid

From the form of a document back to validation: what has the form of an element is valid as it
stands, and so is what differs from it only in entries that validation fills in.

## Main statements

- `Element.validateAt_of_entriesForm`, `Element.validateAt_of_categoryForm`,
  `Element.validateAt_of_listForm` — a collection becomes a document in its form, if its parts do
- `Element.validateAt_of_isForm` — a document in its form is valid as it stands
- `Element.validate_idempotent` — validating a document again changes nothing
-/

namespace ConfigSchema.Element

variable {info : Info} {path : String}

/-! ## The entries of a section in its form -/

/-- Every child of a section in its form has an entry, in its form unless it is computed. -/
theorem EntriesForm.exists_entry {children : List Element} {entries : List (String × Value)}
    (h : EntriesForm children entries) {child : Element} (hchild : child ∈ children) :
    ∃ value, (child.key, value) ∈ entries ∧
      if child.isDerived then value = .null else child.IsForm value := by
  induction children generalizing entries with
  | nil => cases hchild
  | cons first rest ih =>
    obtain ⟨value, more, rfl, hvalue, hmore⟩ := h
    rcases List.mem_cons.mp hchild with rfl | hmem
    · exact ⟨value, List.mem_cons_self .., hvalue⟩
    · obtain ⟨value, hentry, hvalue⟩ := ih hmore hmem
      exact ⟨value, List.mem_cons_of_mem _ hentry, hvalue⟩

/-- A child of a section in its form that is not computed has its value in its form. -/
theorem EntriesForm.child {children : List Element} {entries : List (String × Value)}
    (h : EntriesForm children entries) (hd : (children.map key).Nodup) {child : Element}
    (hchild : child ∈ children) (hplain : child.isDerived = false) {value : Value}
    (hvalue : (child.key, value) ∈ entries) : child.IsForm value := by
  obtain ⟨other, hother, hform⟩ := h.exists_entry hchild
  rw [if_neg (by simp [hplain])] at hform
  have hentries : (entries.map Prod.fst).Nodup := by rwa [h.keys]
  have hsame : some other = some value := by
    rw [← OrderedMap.lookup_of_mem hentries hother, OrderedMap.lookup_of_mem hentries hvalue]
  rwa [← Option.some.inj hsame]

/-- A child that is not computed has the value in a section that it had before any was computed. -/
theorem get?_of_resolveDerived {children : List Element} {entries : List (String × Value)}
    {derived : OrderedMap Value} (hd : (children.map key).Nodup)
    (hentries : entries.map Prod.fst = children.map key)
    (hderived : resolveDerived path ⟨entries⟩ children = .ok derived)
    {child : Element} (hchild : child ∈ children) (hplain : child.isDerived = false)
    {value : Value} (hvalue : (child.key, value) ∈ entries) :
    derived.get? child.key = some value := by
  have hother : ∀ other ∈ children, other.isDerived → other.key ≠ child.key := by
    intro other hmem hcomputed heq
    obtain rfl : other = child := List.inj_on_of_nodup_map hd hmem hchild heq
    rw [hplain] at hcomputed
    cases hcomputed
  rw [get?_resolveDerived hderived hother]
  exact OrderedMap.lookup_of_mem (by rwa [hentries]) hvalue

/-- The declared entries of a section are found beside its extra ones. -/
theorem get?_append_of_resolveDerived {children : List Element}
    {entries : List (String × Value)} {derived : OrderedMap Value}
    (hd : (children.map key).Nodup) (hentries : entries.map Prod.fst = children.map key)
    (hderived : resolveDerived path ⟨entries⟩ children = .ok derived)
    {child : Element} (hchild : child ∈ children) (hplain : child.isDerived = false)
    {value : Value} (hvalue : (child.key, value) ∈ entries) (extras : List (String × Value)) :
    (⟨derived.entries ++ extras⟩ : OrderedMap Value).get? child.key = some value := by
  have hget := get?_of_resolveDerived hd hentries hderived hchild hplain hvalue
  rw [OrderedMap.get?] at hget
  rw [OrderedMap.get?, List.lookup_append, hget, Option.some_or]

/-- A section in its form holds the children that are not computed in their forms. -/
theorem IsForm.child {children : List Element} {extraKeys : Bool}
    (hc : (keyed info children extraKeys).Checked) {fields : OrderedMap Value}
    (h : (keyed info children extraKeys).IsForm (.map fields)) {child : Element}
    (hchild : child ∈ children) (hplain : child.isDerived = false) :
    ∃ value, fields.get? child.key = some value ∧ child.IsForm value := by
  obtain ⟨entries, derived, extras, hentries, hderived, hextras, heq⟩ := h
  obtain rfl := Value.map.inj heq
  obtain ⟨value, hmem, -⟩ := hentries.exists_entry hchild
  exact ⟨value, get?_append_of_resolveDerived hc.nodup_keys hentries.keys hderived hchild hplain
    hmem extras, hentries.child hc.nodup_keys hchild hplain hmem⟩

/-- Of the entries of a section in its form, the undeclared ones are the extra ones. -/
theorem filter_undeclared {children : List Element} {extraKeys : Bool}
    (hc : (keyed info children extraKeys).Checked) {declared extras : List (String × Value)}
    (hdeclared : ∀ name ∈ declared.map Prod.fst, name ∈ children.map key)
    (hextras : ∀ name ∈ extras.map Prod.fst, name ∉ children.map key) :
    ((declared ++ extras).filter fun entry => !children.any (·.isNamed entry.1)) = extras := by
  have hnone : (declared.filter fun entry => !children.any (·.isNamed entry.1)) = [] := by
    rw [List.filter_eq_nil_iff]
    intro entry hentry
    have hname := (any_isNamed_iff hc entry.1).mpr (hdeclared _ (List.mem_map_of_mem hentry))
    simp [hname]
  have hall : (extras.filter fun entry => !children.any (·.isNamed entry.1)) = extras := by
    rw [List.filter_eq_self]
    intro entry hentry
    have hname := mt (any_isNamed_iff hc entry.1).mp (hextras _ (List.mem_map_of_mem hentry))
    simpa using hname
  rw [List.filter_append, hnone, hall, List.nil_append]

/-- Declared and extra entries are taken apart again. -/
theorem undeclaredEntries_append {children : List Element} {extraKeys : Bool}
    (hc : (keyed info children extraKeys).Checked) {declared extras : List (String × Value)}
    (h : ExtraForm info children extraKeys extras)
    (hdeclared : (declared.map Prod.fst).Sublist (children.map key)) (path : String) :
    undeclaredEntries children extraKeys path (declared ++ extras) = .ok extras :=
  undeclaredEntries_eq_ok.mpr
    ⟨(filter_undeclared hc (fun _ hname => hdeclared.subset hname) h.undeclared).symm, h.allowed⟩

/-- The declared entries of a section are valid again, if each child is where it stands. -/
theorem validateChildren_of_entriesForm {path : String} {children : List Element}
    {fields : OrderedMap Value} {entries : List (String × Value)}
    (h : EntriesForm children entries)
    (hvalid : ∀ child ∈ children, child.isDerived = false → ∀ value, (child.key, value) ∈ entries →
      child.validateAt .full (Path.join path child.key) ((fields.get? child.key).getD .null) =
        .ok value) :
    validateChildren children .full path fields = .ok entries := by
  induction children generalizing entries with
  | nil =>
    obtain rfl : entries = [] := h
    rfl
  | cons child rest ih =>
    obtain ⟨value, more, rfl, hvalue, hmore⟩ := h
    rw [validateChildren_cons_eq_ok]
    refine ⟨value, more, ?_, ih hmore fun other hother hplain inner hinner =>
      hvalid other (List.mem_cons_of_mem _ hother) hplain inner
        (List.mem_cons_of_mem _ hinner), rfl⟩
    split at hvalue
    · rename_i hderived
      rwa [if_pos hderived]
    · rename_i hderived
      rw [if_neg hderived]
      exact hvalid child (List.mem_cons_self ..) (by simpa using hderived) value
        (List.mem_cons_self ..)

/-! ## From the form to the document -/

/-- A section becomes a document in its form, if each of its children does. Its children may be
left out. -/
theorem validateAt_of_entriesForm {children : List Element} {extraKeys : Bool}
    (hc : (keyed info children extraKeys).Checked)
    (hp : (keyed info children extraKeys).Everywhere Plain)
    {declared entries extras : List (String × Value)} {derived : OrderedMap Value}
    (hdeclared : (declared.map Prod.fst).Sublist (children.map key))
    (hentries : EntriesForm children entries)
    (hderived : resolveDerived "" ⟨entries⟩ children = .ok derived)
    (hextras : ExtraForm info children extraKeys extras)
    (hvalid : ∀ child ∈ children, child.isDerived = false → ∀ value, (child.key, value) ∈ entries →
      child.validateAt .full (Path.join path child.key)
        ((declared.lookup child.key).getD .null) = .ok value) :
    (keyed info children extraKeys).validateAt .full path (.map ⟨declared ++ extras⟩) =
      .ok (.map ⟨derived.entries ++ extras⟩) := by
  obtain ⟨hdistinct, hfolded⟩ := fields_of_extraForm hc hextras hdeclared
  rw [validateAt_keyed_eq_ok hc hp (.inl rfl)]
  refine ⟨⟨declared ++ extras⟩, extras, entries, derived,
    Info.foldKeys_of_folded hdistinct hfolded,
    undeclaredEntries_append hc hextras hdeclared path, ?_,
    (resolveDerived_alike path "" _ children derived).mpr hderived, ?_⟩
  · refine validateChildren_of_entriesForm hentries fun child hchild hplain value hvalue => ?_
    have hnone : extras.lookup child.key = none :=
      OrderedMap.lookup_eq_none_iff_not_mem.mpr fun hextra =>
        hextras.undeclared _ hextra (List.mem_map_of_mem hchild)
    rw [OrderedMap.get?, List.lookup_append, hnone, Option.or_none]
    exact hvalid child hchild hplain value hvalue
  · rw [OrderedMap.insertMany_of_disjoint hextras.distinct]
    intro name hname
    rw [keys_of_resolveDerived hentries.keys hderived]
    exact hextras.undeclared name hname

/-- A category becomes a document in its form, if each of its entries does. -/
theorem validateAt_of_categoryForm {item : Element} {minEntries : Nat}
    {defaultKey? : Option String} (hp : item.Plain) (hdefault : info.default? = none)
    {raw : List (String × Value)} {fields : OrderedMap Value}
    (hfields : CategoryForm info minEntries defaultKey? fields)
    (hvalid : List.Forall₂ (fun entry valid => valid.1 = entry.1 ∧
      ∀ path, item.validateAt .full path entry.2 = .ok valid.2) raw fields.entries) :
    (category info item minEntries defaultKey?).validateAt .full path (.map ⟨raw⟩) =
      .ok (.map fields) := by
  have hkeys : OrderedMap.keys (⟨raw⟩ : OrderedMap Value) = fields.keys := by
    simp only [OrderedMap.keys]
    generalize fields.entries = valids at hvalid
    induction hvalid with
    | nil => rfl
    | cons hentry _ ih => rw [List.map_cons, List.map_cons, ih, hentry.1]
  have hd : OrderedMap.Distinct (⟨raw⟩ : OrderedMap Value) := by
    rw [OrderedMap.Distinct, hkeys]
    exact hfields.distinct
  have hread : info.categoryFields path (.map ⟨raw⟩) = .ok ⟨raw⟩ := by
    refine Info.foldKeys_of_folded hd ?_
    rw [OrderedMap.Folded, hkeys]
    exact hfields.folded
  rw [validateAt_category_eq_ok hp (.inl rfl) (fun _ => hdefault)]
  · refine ⟨_, none, _, fields.entries, hread, takeShared_of_not_mem ?_, ?_, hfields.enough, rfl⟩
    · rw [hkeys]
      exact hfields.unshared
    · have hnames : ∀ entry ∈ raw, entry.1 ∈ fields.keys := by
        intro entry hentry
        rw [← hkeys]
        exact List.mem_map_of_mem hentry
      refine ((List.forall₂_and_left (p := fun entry => entry.1 ∈ fields.keys) _ _).mpr
        ⟨hnames, hvalid⟩).imp ?_
      rintro entry valid ⟨hname, hkey, hinner⟩
      exact ⟨hkey, (info.checkKey_alike _ "" _ ()).mpr (hfields.choices _ hname), hinner _⟩
  · intro other hother
    rw [hread] at hother
    rwa [← Except.ok.inj hother]

/-- A list becomes a document in its form, if each of its items does. -/
theorem validateAt_of_listForm {item : Element} {minLength? maxLength? : Option Nat}
    (hp : item.Plain) {raw items : List Value}
    (hlist : ListForm info minLength? maxLength? items)
    (hvalid : List.Forall₂ (fun value valid =>
      ∀ path, item.validateAt .full path value = .ok valid) raw items) :
    (list info item minLength? maxLength?).validateAt .full path (.seq raw) =
      .ok (.seq items) := by
  rw [validateAt_list_eq_ok hp (.inl rfl)]
  refine ⟨raw, items, rfl, ?_, ?_, fun hrequired _ => hlist.filled hrequired, rfl⟩
  · rw [hvalid.length_eq]
    exact (checkLength_alike path "" minLength? maxLength? _ ()).mpr hlist.length
  · exact Outcome.mapM_zipIdx_of_forall₂ (hvalid.imp fun _ _ hinner index => hinner _) 0

/-- A document in its form is valid as it stands. -/
theorem validateAt_of_isForm {element : Element} (hc : element.Checked)
    (hs : element.Everywhere Settled) {document : Value} (h : element.IsForm document)
    (path : String) : element.validateAt .full path document = .ok document := by
  induction element using Element.induction generalizing document path with
  | scalar info type => exact (info.validateScalar_alike type path "" document document).mpr h
  | code info =>
    rcases h with ⟨rfl, habsent⟩ | ⟨text, rfl⟩
    · exact (info.absent_alike path "" .null).mpr habsent
    · exact congrArg (Except.ok ∘ Value.str) (Info.codeBlock_codeBlock text)
  | keyed info children extraKeys ih =>
    obtain ⟨entries, derived, extras, hentries, hderived, hextras, rfl⟩ := h
    have hdeclared : derived.keys.Sublist (children.map key) := by
      rw [keys_of_resolveDerived hentries.keys hderived]
    refine validateAt_of_entriesForm hc (hs.imp fun _ => Settled.toPlain) hdeclared hentries
      hderived hextras ?_
    intro child hchild hplain value hvalue
    have hget : derived.entries.lookup child.key = some value :=
      get?_of_resolveDerived hc.nodup_keys hentries.keys hderived hchild hplain hvalue
    rw [hget, Option.getD_some]
    exact ih child hchild (hc.child hchild).2.2 (hs.child hchild)
      (hentries.child hc.nodup_keys hchild hplain hvalue) _
  | category info item minEntries defaultKey? ih =>
    obtain ⟨fields, hfields, hentries, rfl⟩ := h
    refine validateAt_of_categoryForm hs.entry.self.toPlain (hs.self.category _ _ _ _ rfl)
      hfields ?_
    exact List.forall₂_same.mpr fun entry hentry =>
      ⟨rfl, ih hc.entry hs.entry (hentries entry hentry)⟩
  | list info item minLength? maxLength? ih =>
    obtain ⟨items, hlist, hitems, rfl⟩ := h
    exact validateAt_of_listForm hs.item.self.toPlain hlist
      (List.forall₂_same.mpr fun value hvalue => ih hc.item hs.item (hitems value hvalue))
  | derived info resolve => cases h

/-- What is absent becomes the default. -/
theorem Settled.validateAt_null {element : Element} (hc : element.Checked)
    (hs : element.Everywhere Settled) {default : Value}
    (hdefault : element.info.default? = some default) (path : String) :
    element.validateAt .full path .null = .ok default := by
  have hfixed := hs.self.fixed default hdefault
  rw [hs.self.validate, element.validateAt_alike .full "" path] at hfixed
  cases element with
  | scalar info type => exact Info.absent_eq_ok.mpr (.inl hdefault)
  | code info => exact Info.absent_eq_ok.mpr (.inl hdefault)
  | derived info resolve => cases hfixed
  | category info item minEntries defaultKey? =>
    have hnone := hs.self.category _ _ _ _ rfl
    rw [show info.default? = some default from hdefault] at hnone
    cases hnone
  | keyed info children extraKeys =>
    obtain ⟨fields, rfl, hform⟩ := exists_map_of_default hc hs (fun child hchild path value
      document hvalue h => (Settled.isForm (hc.child hchild).2.2 (hs.child hchild) hvalue h :))
      hdefault
    obtain ⟨hd, hfolded⟩ := hform.fields hc
    have hp := hs.imp fun _ => Settled.toPlain
    rw [validateAt_keyed_eq_ok hc hp (.inl rfl)] at hfixed ⊢
    obtain ⟨folded, extras, entries, derived, hfields, hrest⟩ := hfixed
    rw [Info.sectionFields, Info.foldKeys_of_folded hd hfolded] at hfields
    obtain rfl := Except.ok.inj hfields
    have habsent : info.absent path = .ok (.map fields) :=
      Info.absent_eq_ok.mpr (.inl hdefault)
    refine ⟨fields, extras, entries, derived, ?_, hrest⟩
    rw [Info.sectionFields, habsent]
    rfl
  | list info item minLength? maxLength? =>
    rw [validateAt_list_eq_ok hs.item.self.toPlain (.inl rfl)] at hfixed ⊢
    obtain ⟨items, valids, hitems, hlength, hvalids, hfilled, rfl⟩ := hfixed
    refine ⟨items, valids, ?_, hlength, hvalids, hfilled, rfl⟩
    rw [← hitems]
    simp only [Info.listItems, show info.default? = some (.seq valids) from hdefault]

/-! ## Validating again -/

/-- A valid document is valid as it stands: whatever was brought into its type, completed, shared or
computed when it was made, validating it again changes nothing. -/
theorem validate_idempotent {schema : Element} (hcheck : schema.check = .ok ())
    (hs : schema.Everywhere Settled) {raw document : Value} (hraw : raw.Proper)
    (h : schema.validate .full raw = .ok document) :
    schema.validate .full document = .ok document := by
  have hc : schema.Checked := ⟨"", false, hcheck⟩
  rw [hs.self.validate] at h ⊢
  exact validateAt_of_isForm hc hs (Settled.isForm hc hs hraw h) ""

/-- A fleet with shared defaults, a code block and a computed entry stays as it is. -/
theorem validate_idempotent_fleet :
    Samples.fleet.validate .full fleetDocument = .ok fleetDocument :=
  validate_idempotent rfl replayable_fleet.settled proper_fleetRaw rfl

end ConfigSchema.Element
