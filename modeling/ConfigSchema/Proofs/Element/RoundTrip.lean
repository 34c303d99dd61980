import ConfigSchema.Proofs.Element.Shown

/-!
# Documents read back from their events

A valid document is taken again from the events that are written of it, whatever is left out and
whatever comments stand among them: validation fills in just what was left out.

## Main definitions

- `Element.Describes` — a part of a schema describes a value inside a document

## Main statements

- `Element.validateAt_shown` — what is shown of a document in its form becomes the document
- `Element.validate_document` — the events of a valid document denote a value that becomes the
  document
-/

namespace ConfigSchema.Element

/-- Inside a document of an element, a part of the element describes a value. -/
inductive Describes (part : Element) (value : Value) : Element → Value → Prop
  | self : Describes part value part value
  | child {info : Info} {children : List Element} {extraKeys : Bool} {fields : OrderedMap Value}
      {child : Element} {inner : Value} (hchild : child ∈ children)
      (hinner : fields.get? child.key = some inner) (h : Describes part value child inner) :
      Describes part value (.keyed info children extraKeys) (.map fields)
  | entry {info : Info} {item : Element} {minEntries : Nat} {defaultKey? : Option String}
      {fields : OrderedMap Value} {entry : String × Value} (hentry : entry ∈ fields.entries)
      (h : Describes part value item entry.2) :
      Describes part value (.category info item minEntries defaultKey?) (.map fields)
  | item {info : Info} {item : Element} {minLength? maxLength? : Option Nat}
      {items : List Value} {inner : Value} (hitem : inner ∈ items)
      (h : Describes part value item inner) :
      Describes part value (.list info item minLength? maxLength?) (.seq items)

/-- No block of code in a document of the element has a carriage return in front of a line feed. -/
def PlainBlocks (element : Element) (document : Value) : Prop :=
  ∀ info block, Describes (.code info) (.str block) element document →
    ¬['\r', '\n'] <:+: block.toList

/-- What a part of an element describes is a part of the document. -/
theorem Describes.within {part element : Element} {value document : Value}
    (h : Describes part value element document) : value.Within document := by
  induction h with
  | self => exact .self
  | child _ hinner _ ih => exact .field (OrderedMap.mem_of_lookup hinner) ih
  | entry hentry _ ih => exact .field hentry ih
  | item hitem _ ih => exact .item hitem ih

/-- Where no text has a carriage return in front of a line feed, no block of code has one. -/
theorem plainBlocks_of_everywhere {document : Value}
    (h : document.Everywhere fun value => ∀ text, value = .str text →
      ¬['\r', '\n'] <:+: text.toList) (element : Element) : element.PlainBlocks document :=
  fun _ block hblock => h _ hblock.within block rfl

/-! ## What is shown -/

/-- The declared entries that are shown stand under names of children, in their order. -/
theorem map_fst_shownEntries (children : List Element) (opts : DumpOptions)
    (fields : OrderedMap Value) :
    ((shownEntries children opts fields).map Prod.fst).Sublist (children.map key) := by
  induction children with
  | nil => exact .slnil
  | cons child rest ih =>
    rw [shownEntries, List.map_append]
    split
    · exact ih.cons _
    · exact ih.cons_cons _

/-- A child is shown under its name unless it is left out. -/
theorem lookup_shownEntries {children : List Element} (hd : (children.map key).Nodup)
    (opts : DumpOptions) (fields : OrderedMap Value) {child : Element} (hchild : child ∈ children) :
    (shownEntries children opts fields).lookup child.key =
      if child.isOmitted opts (fields.get? child.key) then none
      else some (child.shown opts ((fields.get? child.key).getD .null)) := by
  induction children with
  | nil => cases hchild
  | cons first rest ih =>
    obtain ⟨hfirst, hrest⟩ := List.nodup_cons.mp hd
    rw [shownEntries]
    rcases List.mem_cons.mp hchild with rfl | hmem
    · split
      · rw [List.nil_append, OrderedMap.lookup_eq_none_iff_not_mem]
        exact fun hmem => hfirst ((map_fst_shownEntries rest opts fields).subset hmem)
      · simp
    · have hne : child.key ≠ first.key := by
        intro heq
        exact hfirst (heq ▸ List.mem_map_of_mem hmem)
      rw [← ih hrest hmem]
      split
      · rfl
      · exact OrderedMap.lookup_cons_of_ne _ _ hne

/-- What is shown of a section in its form: the declared entries that are not left out, and the
extra ones. -/
theorem shown_keyed {info : Info} {children : List Element} {extraKeys : Bool}
    (hc : (keyed info children extraKeys).Checked) (opts : DumpOptions)
    {declared extras : List (String × Value)}
    (hdeclared : declared.map Prod.fst = children.map key)
    (hextras : ExtraForm info children extraKeys extras) :
    (keyed info children extraKeys).shown opts (.map ⟨declared ++ extras⟩) =
      .map ⟨shownEntries children opts ⟨declared ++ extras⟩ ++ extras⟩ := by
  rw [shown]
  dsimp only
  rw [filter_undeclared hc (fun name hname => hdeclared ▸ hname) hextras.undeclared]

theorem mem_shownEntries {children : List Element} {opts : DumpOptions}
    {fields : OrderedMap Value} {entry : String × Value}
    (h : entry ∈ shownEntries children opts fields) :
    ∃ child ∈ children, child.isDerived = false ∧
      entry = (child.key, child.shown opts ((fields.get? child.key).getD .null)) := by
  induction children with
  | nil => cases h
  | cons first rest ih =>
    rw [shownEntries] at h
    split at h
    · obtain ⟨child, hchild, hentry⟩ := ih h
      exact ⟨child, List.mem_cons_of_mem _ hchild, hentry⟩
    · rename_i hshown
      rcases List.mem_cons.mp h with rfl | hmem
      · exact ⟨first, List.mem_cons_self .., not_derived_of_shown hshown, rfl⟩
      · obtain ⟨child, hchild, hentry⟩ := ih hmem
        exact ⟨child, List.mem_cons_of_mem _ hchild, hentry⟩

/-- What is shown of a document in its form has distinct keys. -/
theorem proper_shown {element : Element} (hc : element.Checked) (opts : DumpOptions)
    {document : Value} (h : element.IsForm document) : (element.shown opts document).Proper := by
  induction element using Element.induction generalizing document with
  | scalar info type =>
    obtain ⟨hseq, hmap⟩ := Info.not_collection_of_validateScalar h
    exact Value.Proper.of_scalar hseq hmap
  | code info =>
    rcases h with ⟨rfl, -⟩ | ⟨text, rfl⟩
    · exact Value.Proper.of_scalar (by simp [shown]) (by simp [shown])
    · refine Value.Everywhere.seq trivial fun item hitem => ?_
      obtain ⟨line, -, rfl⟩ := List.mem_map.mp hitem
      exact Value.Proper.of_scalar (by simp) (by simp)
  | keyed info children extraKeys ih =>
    have hform := h
    obtain ⟨entries, derived, extras, hentries, hderived, hextras, rfl⟩ := h
    rw [shown_keyed hc opts (keys_of_resolveDerived hentries.keys hderived) hextras]
    refine Value.Everywhere.map
      (fields_of_extraForm hc hextras (map_fst_shownEntries children opts _)).1
      fun entry hentry => ?_
    rcases List.mem_append.mp hentry with hdeclared | hextra
    · obtain ⟨child, hchild, hplain, rfl⟩ := mem_shownEntries hdeclared
      obtain ⟨value, hvalue, hchildForm⟩ := hform.child hc hchild hplain
      rw [hvalue]
      exact ih child hchild (hc.child hchild).2.2 hchildForm
    · exact hextras.proper entry hextra
  | category info item minEntries defaultKey? ih =>
    obtain ⟨fields, hfields, hentries, rfl⟩ := h
    refine Value.Everywhere.map ?_ fun entry hentry => ?_
    · have hkeys : (fields.entries.map fun entry => (entry.1, item.shown opts entry.2)).map
          Prod.fst = fields.keys := by
        simp [OrderedMap.keys, Function.comp_def]
      rw [Value.HasDistinctKeys, OrderedMap.Distinct, OrderedMap.keys, hkeys]
      exact hfields.distinct
    · obtain ⟨inner, hinner, rfl⟩ := List.mem_map.mp hentry
      exact ih hc.entry (hentries inner hinner)
  | list info item minLength? maxLength? ih =>
    obtain ⟨items, -, hitems, rfl⟩ := h
    refine Value.Everywhere.seq trivial fun value hvalue => ?_
    obtain ⟨inner, hinner, rfl⟩ := List.mem_map.mp hvalue
    exact ih hc.item (hitems inner hinner)
  | derived info resolve => cases h

/-! ## What is shown becomes the document -/

/-- An entry that is left out though it is not computed is the default of its element. -/
theorem default_of_isOmitted {element : Element} (hr : element.Replayable) {opts : DumpOptions}
    {value : Value} (hplain : element.isDerived = false) (hvalue : value.PlainZeros)
    (h : element.isOmitted opts (some value)) : element.info.default? = some value := by
  rw [isOmitted, hplain, hr.self.visible] at h
  simp only [Bool.or_self, Bool.false_or, Bool.and_eq_true, Option.any_eq_true,
    Option.getD_some] at h
  obtain ⟨-, default, hdefault, hsame⟩ := h
  rw [Value.eq_of_sameAs hsame hvalue (hr.self.plainZeros default hdefault)]
  exact hdefault

/-- What is shown of a document in its form becomes the document. -/
theorem validateAt_shown {element : Element} (hc : element.Checked) (hr : element.Replayable)
    (opts : DumpOptions) {document : Value} (h : element.IsForm document)
    (hplain : document.PlainZeros) (hblocks : element.PlainBlocks document) (path : String) :
    element.validateAt .full path (element.shown opts document) = .ok document := by
  induction element using Element.induction generalizing document path with
  | scalar info type => exact (info.validateScalar_alike type path "" document document).mpr h
  | code info =>
    rcases h with ⟨rfl, habsent⟩ | ⟨text, rfl⟩
    · exact (info.absent_alike path "" .null).mpr habsent
    · have hlines : (code info).validateAt .full path ((code info).shown opts
          (.str (Info.codeBlock [text]))) = (do
            return .str (Info.codeBlock (← Info.codeLines path 0
              ((Text.lines (Info.codeBlock [text])).map .str)))) := rfl
      rw [hlines, Info.codeLines_map_str, Outcome.ok_bind,
        Info.codeBlock_lines (hblocks info _ .self)]
      rfl
  | keyed info children extraKeys ih =>
    obtain ⟨entries, derived, extras, hentries, hderived, hextras, rfl⟩ := h
    rw [shown_keyed hc opts (keys_of_resolveDerived hentries.keys hderived) hextras]
    refine validateAt_of_entriesForm hc hr.plain (map_fst_shownEntries children opts _) hentries
      hderived hextras ?_
    intro child hchild hderivable value hvalue
    have hget := get?_append_of_resolveDerived hc.nodup_keys hentries.keys hderived hchild
      hderivable hvalue extras
    have hinner : value.PlainZeros := (hplain.of_field (OrderedMap.mem_of_lookup hget) :)
    rw [lookup_shownEntries hc.nodup_keys opts _ hchild, hget]
    split
    · -- an entry that is left out is the default, which validation fills in again
      rename_i homitted
      exact Settled.validateAt_null (hc.child hchild).2.2 (hr.child hchild).settled
        (default_of_isOmitted (hr.child hchild) hderivable hinner homitted) _
    · exact ih child hchild (hc.child hchild).2.2 (hr.child hchild)
        (hentries.child hc.nodup_keys hchild hderivable hvalue) hinner
        (fun info block hblock => hblocks info block (.child hchild hget hblock)) _
  | category info item minEntries defaultKey? ih =>
    obtain ⟨fields, hfields, hentries, rfl⟩ := h
    refine validateAt_of_categoryForm hr.entry.plain.self (hr.self.category _ _ _ _ rfl) hfields ?_
    rw [List.forall₂_map_left_iff, List.forall₂_same]
    exact fun entry hentry => ⟨rfl, ih hc.entry hr.entry (hentries entry hentry)
      (hplain.of_field hentry)
      (fun info block hblock => hblocks info block (.entry hentry hblock))⟩
  | list info item minLength? maxLength? ih =>
    obtain ⟨items, hlist, hitems, rfl⟩ := h
    refine validateAt_of_listForm hr.item.plain.self hlist ?_
    rw [List.forall₂_map_left_iff, List.forall₂_same]
    exact fun value hvalue => ih hc.item hr.item (hitems value hvalue) (hplain.of_item hvalue)
      (fun info block hblock => hblocks info block (.item hvalue hblock))
  | derived info resolve => cases h

/-! ## Documents -/

/-- What validation gives has the form of the element, if what is left out can be filled in. -/
theorem isForm_of_validateAt {element : Element} (hc : element.Checked) (hr : element.Replayable)
    {path : String} {value document : Value} (hvalue : value.Proper)
    (h : element.validateAt .full path value = .ok document) : element.IsForm document :=
  Settled.isForm hc hr.settled hvalue h

/-- The events of a valid document denote a value that becomes the document again. Nothing that is
left out and no comment is missed, whatever the options are. -/
theorem validate_document {schema : Element} (hcheck : schema.check = .ok ())
    (hr : schema.Replayable) {raw document : Value} (hraw : raw.Proper)
    (hvalid : schema.validate .full raw = .ok document) (hplain : document.PlainZeros)
    (hblocks : schema.PlainBlocks document) (opts : DumpOptions) :
    ∃ read, Value.ofEvents? (schema.document opts (some document)) = .ok read ∧
      schema.validate .full read = .ok document := by
  have hc : schema.Checked := ⟨"", false, hcheck⟩
  rw [hr.validate] at hvalid
  have hform : schema.IsForm document := isForm_of_validateAt hc hr hraw hvalid
  refine ⟨schema.shown opts document, ?_, ?_⟩
  · exact ofEvents?_document_of (proper_shown hc opts hform) (withoutComments_events hc opts hform)
  · rw [hr.validate]
    exact validateAt_shown hc hr opts hform hplain hblocks ""

/-- The shared defaults, the code block and the computed entry of a fleet are there again when it is
written without the entries that are equal to their defaults. -/
theorem validate_document_fleet :
    ∃ read, Value.ofEvents? (Samples.fleet.document { omitDefaults := true }
        (some fleetDocument)) = .ok read ∧
      Samples.fleet.validate .full read = .ok fleetDocument := by
  have hraw : fleetRaw.Proper := by
    simp [fleetRaw, Value.Proper, Value.Everywhere.map_iff, Value.Everywhere.seq_iff,
      Value.Everywhere.scalar_iff, Value.HasDistinctKeys, OrderedMap.Distinct, OrderedMap.keys]
  have hvalid : Samples.fleet.validate .full fleetRaw = .ok fleetDocument := rfl
  have hplain : fleetDocument.PlainZeros := by
    simp [fleetDocument, Value.PlainZeros, Value.Everywhere.map_iff, Value.Everywhere.seq_iff,
      Value.Everywhere.scalar_iff, Value.IsPlainZero]
  have hblocks : Samples.fleet.PlainBlocks fleetDocument := by
    refine plainBlocks_of_everywhere ?_ _
    simp [fleetDocument, Value.Everywhere.map_iff, Value.Everywhere.seq_iff,
      Value.Everywhere.scalar_iff]
    decide
  exact validate_document rfl replayable_fleet hraw hvalid hplain hblocks _

end ConfigSchema.Element
