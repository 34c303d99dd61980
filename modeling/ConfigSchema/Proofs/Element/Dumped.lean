import ConfigSchema.Proofs.Element.Dump

/-!
# What is written of any value

Without its comments, what is written of a value is a value again, whether the value is valid or
not, and so is a template, which is written without a value. For a valid document it is the value
that is shown of it.

## Main definitions

- `Element.dumped` — the value that is written of a value, or of a template
- `Element.Writes` — a part of a schema is written with a value, or as a template

## Main statements

- `Element.withoutComments_dumped` — the events of a value or a template are those of what is
  written, and comments
- `Element.proper_dumped` — what is written has distinct keys
-/

namespace ConfigSchema

/-- The lines of a block of code. A value that is no text stays as it is, and no value is no
lines. -/
def codeLinesOf : Option Value → Value
  | some (.str block) => .seq ((Text.lines block).map .str)
  | some value => value
  | none => .seq []

namespace Element

mutual

/-- The value that is written of a value, or of a template without one. A value of another shape
than the element stays as it is. -/
def dumped : Element → (opts : DumpOptions) → Option Value → Value
  | scalar info _, _, value? => value?.getD (info.default?.getD .null)
  | code info, _, value? => codeLinesOf (value?.or info.default?)
  | keyed info children _, opts, value? =>
      match info.writtenFields? value? with
      | some fields => .map ⟨dumpedEntries children opts fields ++ undeclared children fields⟩
      | none => value?.getD .null
  | category info item _ _, opts, value? =>
      match info.writtenFields? value? with
      | some fields => .map (fields.mapValues fun value => item.dumped opts (some value))
      | none => value?.getD .null
  | list info item _ _, opts, value? =>
      match info.writtenItems? value? with
      | some values => .seq (values.map fun inner? => item.dumped opts inner?)
      | none => value?.getD .null
  | derived _ _, _, value? => value?.getD .null
termination_by structural element => element

/-- The declared entries that are written of a section. -/
def dumpedEntries : List Element → (opts : DumpOptions) → OrderedMap Value →
    List (String × Value)
  | [], _, _ => []
  | child :: rest, opts, fields =>
      let entry := if child.isOmitted opts (fields.get? child.key) then []
        else [(child.key, child.dumped opts (fields.get? child.key))]
      entry ++ dumpedEntries rest opts fields
termination_by structural children => children

end

/-- When an element is written with a value, or as a template, a part of it is written so too. -/
inductive Writes (opts : DumpOptions) (part : Element) (inner? : Option Value) :
    Element → Option Value → Prop
  | self : Writes opts part inner? part inner?
  | child {info : Info} {children : List Element} {extraKeys : Bool} {value? : Option Value}
      {fields : OrderedMap Value} {child : Element}
      (hfields : info.writtenFields? value? = some fields)
      (hchild : child ∈ children) (hshown : child.isOmitted opts (fields.get? child.key) = false)
      (h : Writes opts part inner? child (fields.get? child.key)) :
      Writes opts part inner? (.keyed info children extraKeys) value?
  | entry {info : Info} {item : Element} {minEntries : Nat} {defaultKey? : Option String}
      {value? : Option Value} {fields : OrderedMap Value} {entry : String × Value}
      (hfields : info.writtenFields? value? = some fields) (hentry : entry ∈ fields.entries)
      (h : Writes opts part inner? item (some entry.2)) :
      Writes opts part inner? (.category info item minEntries defaultKey?) value?
  | item {info : Info} {item : Element} {minLength? maxLength? : Option Nat}
      {value? : Option Value} {values : List (Option Value)} {value'? : Option Value}
      (hvalues : info.writtenItems? value? = some values) (hitem : value'? ∈ values)
      (h : Writes opts part inner? item value'?) :
      Writes opts part inner? (.list info item minLength? maxLength?) value?

/-- What is written of parts is written of parts of the element. -/
theorem Writes.within {opts : DumpOptions} {part element : Element} {inner? value? : Option Value}
    (h : Writes opts part inner? element value?) : part.Within element := by
  induction h with
  | self => exact .self
  | child _ hchild _ _ ih => exact .part hchild ih
  | entry _ _ _ ih => exact .part (List.mem_singleton.mpr rfl) ih
  | item _ _ _ ih => exact .part (List.mem_singleton.mpr rfl) ih

variable {info : Info} {opts : DumpOptions} {children : List Element}

/-! ## The events -/

theorem withoutComments_commentEvents (element : Element) (opts : DumpOptions) (showName : Bool) :
    withoutComments (element.commentEvents opts showName) = [] := by
  unfold commentEvents
  split <;> rfl

/-- A stream around the events of a value denotes this value, whatever comments explain it. -/
theorem ofEvents?_document_of {schema : Element} {value? : Option Value} {written : Value}
    (hproper : written.Proper)
    (h : withoutComments (schema.events opts value?) = written.events) :
    Value.ofEvents? (schema.document opts value?) = .ok written := by
  have hcomment : withoutComments
      (if schema.info.help?.isSome then schema.commentEvents opts true else []) = [] := by
    split
    · exact withoutComments_commentEvents schema opts true
    · rfl
  have hinner : withoutComments
      ((if schema.info.help?.isSome then schema.commentEvents opts true else []) ++
        schema.events opts value?) = written.events := by
    rw [withoutComments_append, hcomment, List.nil_append, h]
  exact Value.ofEvents?_of_withoutComments hproper hinner

/-- A code block is written as the sequence of its lines. -/
theorem codeEvents_str (block : String) :
    codeEvents (some (.str block)) = (Value.seq ((Text.lines block).map .str)).events := by
  rw [codeEvents, Value.events, Value.itemEvents_eq_flatMap, List.flatMap_map,
    List.map_eq_flatMap]
  rfl

theorem withoutComments_codeEvents (value? : Option Value) :
    withoutComments (codeEvents value?) = (codeLinesOf value?).events := by
  match value? with
  | none => rfl
  | some (.str block) => rw [codeEvents_str, Value.withoutComments_events, codeLinesOf]
  | some .null | some (.bool _) | some (.int _) | some (.float _) | some (.seq _)
  | some (.map _) => exact Value.withoutComments_events _

theorem withoutComments_dumpedEntries {fields : OrderedMap Value}
    (h : ∀ child ∈ children, child.isDerived = false → ∀ value?,
      withoutComments (child.events opts value?) = (child.dumped opts value?).events) :
    withoutComments (childEvents children opts (some fields)) =
      Value.fieldEvents (dumpedEntries children opts fields) := by
  induction children with
  | nil => rfl
  | cons child rest ih =>
    have hrest := ih fun other hother => h other (List.mem_cons_of_mem _ hother)
    rw [childEvents, dumpedEntries, withoutComments_append, Value.fieldEvents_append, hrest]
    congr 1
    simp only [Option.bind_some]
    split
    · rfl
    · rename_i hshown
      rw [withoutComments_append, withoutComments_commentEvents, List.nil_append, Event.str,
        withoutComments_cons rfl, h child List.mem_cons_self (not_derived_of_shown hshown)]
      simp [Value.fieldEvents, Event.str]

/-- The events of a value or a template are those of what is written of it, and comments. -/
theorem withoutComments_dumped {element : Element} (hc : element.Checked)
    (hplain : element.isDerived = false) (opts : DumpOptions) (value? : Option Value) :
    withoutComments (element.events opts value?) = (element.dumped opts value?).events := by
  induction element using Element.induction generalizing value? with
  | scalar info type => exact Value.withoutComments_events _
  | code info => exact withoutComments_codeEvents _
  | keyed info children extraKeys ih =>
    rw [events_keyed, dumped]
    cases info.writtenFields? value? with
    | none => exact Value.withoutComments_events _
    | some fields =>
      have hchildren : withoutComments (childEvents children opts (some fields)) =
          Value.fieldEvents (dumpedEntries children opts fields) :=
        withoutComments_dumpedEntries fun child hchild => ih child hchild (hc.child hchild).2.2
      dsimp only
      rw [List.cons_append, withoutComments_enclosed rfl rfl, withoutComments_append, hchildren,
        Value.withoutComments_fieldEvents, ← Value.fieldEvents_append]
      rfl
  | category info item minEntries defaultKey? ih =>
    rw [events_category, dumped]
    cases info.writtenFields? value? with
    | none => exact Value.withoutComments_events _
    | some fields =>
      have hentry : ∀ entry : String × Value,
          withoutComments (.str entry.1 :: item.events opts (some entry.2)) =
            .str entry.1 :: (item.dumped opts (some entry.2)).events := by
        intro entry
        rw [Event.str, withoutComments_cons rfl, ih hc.entry hc.entry_not_derived]
      dsimp only
      rw [List.cons_append, withoutComments_enclosed rfl rfl, withoutComments_append,
        withoutComments_commentEvents, List.nil_append, withoutComments_flatMap]
      simp only [hentry, OrderedMap.mapValues, Value.events, Value.fieldEvents_eq_flatMap,
        List.flatMap_map, List.cons_append]
  | list info item minLength? maxLength? ih =>
    rw [events_list, dumped]
    cases info.writtenItems? value? with
    | none => exact Value.withoutComments_events _
    | some values =>
      dsimp only
      rw [List.cons_append, withoutComments_enclosed rfl rfl, withoutComments_append,
        withoutComments_commentEvents, List.nil_append, withoutComments_flatMap]
      simp only [ih hc.item hc.item_not_derived, Value.events, Value.itemEvents_eq_flatMap,
        List.flatMap_map, List.cons_append]
  | derived info resolve => cases hplain

/-! ## Distinct keys -/

theorem mem_dumpedEntries {fields : OrderedMap Value} {entry : String × Value} :
    entry ∈ dumpedEntries children opts fields ↔ ∃ child ∈ children,
      child.isOmitted opts (fields.get? child.key) = false ∧
        entry = (child.key, child.dumped opts (fields.get? child.key)) := by
  induction children with
  | nil => simp [dumpedEntries]
  | cons first rest ih =>
    rw [dumpedEntries, List.mem_append, ih, List.exists_mem_cons_iff]
    refine or_congr ?_ Iff.rfl
    cases first.isOmitted opts (fields.get? first.key) <;> simp

theorem map_fst_dumpedEntries (children : List Element) (opts : DumpOptions)
    (fields : OrderedMap Value) :
    ((dumpedEntries children opts fields).map Prod.fst).Sublist (children.map key) := by
  induction children with
  | nil => exact .slnil
  | cons child rest ih =>
    rw [dumpedEntries, List.map_append]
    split
    · exact ih.cons _
    · exact ih.cons_cons _

/-- What is written of a section has distinct keys, if the section has. -/
theorem distinct_dumped {extraKeys : Bool} (hc : (keyed info children extraKeys).Checked)
    (opts : DumpOptions) {fields : OrderedMap Value} (h : fields.Distinct) :
    OrderedMap.Distinct (⟨dumpedEntries children opts fields ++ undeclared children fields⟩ :
      OrderedMap Value) := by
  rw [OrderedMap.Distinct, OrderedMap.keys, List.map_append]
  exact nodup_append_undeclared hc (map_fst_dumpedEntries children opts fields) h

theorem proper_codeLinesOf {value? : Option Value} (hvalue : ∀ value ∈ value?, value.Proper) :
    (codeLinesOf value?).Proper := by
  match value? with
  | none => exact Value.Everywhere.seq trivial (by simp)
  | some (.str block) =>
    refine Value.Everywhere.seq trivial fun item hitem => ?_
    obtain ⟨line, -, rfl⟩ := List.mem_map.mp hitem
    exact Value.Proper.str line
  | some .null | some (.bool _) | some (.int _) | some (.float _) | some (.seq _)
  | some (.map _) => exact hvalue _ rfl

/-- What is written has distinct keys, if the value and the defaults have. -/
theorem proper_dumped {element : Element} (hc : element.Checked)
    (hdefaults : element.Everywhere HasProperDefault) (opts : DumpOptions) {value? : Option Value}
    (hvalue : ∀ value ∈ value?, value.Proper) : (element.dumped opts value?).Proper := by
  have hgiven : ∀ {value? : Option Value}, (∀ value ∈ value?, value.Proper) →
      (value?.getD .null).Proper := fun hvalue => Value.of_getD .null hvalue
  induction element using Element.induction generalizing value? with
  | scalar info type => exact Value.of_getD (hgiven hdefaults.self.proper) hvalue
  | code info =>
    refine proper_codeLinesOf fun block hblock => ?_
    rcases Option.or_eq_some_iff.mp hblock with hsome | ⟨-, hdefault⟩
    · exact hvalue block hsome
    · exact hdefaults.self.proper block hdefault
  | keyed info children extraKeys ih =>
    rw [dumped]
    cases hfields : info.writtenFields? value? with
    | none => exact hgiven hvalue
    | some fields =>
      have hproper : (Value.map fields).Proper :=
        hdefaults.self.proper_writtenFields hvalue hfields
      refine Value.Everywhere.map (distinct_dumped hc opts hproper.self) fun entry hentry => ?_
      rcases List.mem_append.mp hentry with hdeclared | hextra
      · obtain ⟨child, hchild, -, rfl⟩ := mem_dumpedEntries.mp hdeclared
        refine ih child hchild (hc.child hchild).2.2 (hdefaults.child hchild) fun value hget => ?_
        exact (hproper.of_field (OrderedMap.mem_of_lookup hget) :)
      · exact hproper.of_field (mem_undeclared.mp hextra).1
  | category info item minEntries defaultKey? ih =>
    rw [dumped]
    cases hfields : info.writtenFields? value? with
    | none => exact hgiven hvalue
    | some fields =>
      have hproper : (Value.map fields).Proper :=
        hdefaults.self.proper_writtenFields hvalue hfields
      refine Value.Everywhere.map ?_ fun entry hentry => ?_
      · rw [Value.HasDistinctKeys, OrderedMap.Distinct, OrderedMap.keys_mapValues]
        exact hproper.self
      · obtain ⟨inner, hinner, rfl⟩ := List.mem_map.mp hentry
        refine ih hc.entry hdefaults.entry ?_
        rintro _ ⟨⟩
        exact hproper.of_field hinner
  | list info item minLength? maxLength? ih =>
    rw [dumped]
    cases hvalues : info.writtenItems? value? with
    | none => exact hgiven hvalue
    | some values =>
      refine Value.Everywhere.seq trivial fun inner hinner => ?_
      obtain ⟨inner?, hmem, rfl⟩ := List.mem_map.mp hinner
      exact ih hc.item hdefaults.item fun value hsome =>
        hdefaults.self.proper_writtenItems hvalue hvalues hmem hsome
  | derived info resolve => exact hgiven hvalue

end Element

end ConfigSchema
