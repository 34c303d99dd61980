import ConfigSchema.Element.Text
import ConfigSchema.Proofs.Element.Parts
import ConfigSchema.Proofs.Element.Written
import ConfigSchema.Proofs.Value.Events

/-!
# Every document can be dumped

A consistent schema writes any document, or a template without one, whether the document is valid
or not. What it writes is a text, and the stream behind it denotes a value.

The events of an element are put together from those of its parts, and at each step they stay the
events of some node. That the keys of a section are distinct is due to the check: the declared ones
are, and the others are those that no child declares.

## Main definitions

- `IsNode`, `AreEntries`, `AreItems` — the events of a node that is read as a value, and of what
  collections hold

## Main statements

- `Element.isNode_events` — the events of an element are those of one node
- `Element.exists_dump` — a consistent schema dumps any document
-/

namespace ConfigSchema

/-! ## Events that are put together -/

/-- The events of one sound node. -/
def IsNode (events : List Event) : Prop := ∃ node : StreamNode, node.Sound ∧ node.events = events

/-- The events of sound entries under the keys. -/
def AreEntries (keys : List String) (events : List Event) : Prop :=
  ∃ entries : StreamEntries, entries.Sound ∧ entries.fields.map Prod.fst = keys ∧
    entries.events = events

def AreItems (events : List Event) : Prop :=
  ∃ items : StreamItems, items.Sound ∧ items.events = events

theorem proper_scalarValue (text : String) (tag : ScalarTag) : (scalarValue text tag).Proper := by
  -- reading a scalar gives a scalar, and so does the null in its place
  refine .of_scalar ?_ ?_
  all_goals
    intro inner
    unfold scalarValue Value.ofScalar?
    cases tag with
    | int => cases readInt64? text <;> simp [Except.toOption]
    | float => cases readFloat? text <;> simp [Except.toOption]
    | bool => dsimp only; split_ifs <;> simp [Except.toOption]
    | _ => simp [Except.toOption]

theorem IsNode.scalar {text : String} {tag : ScalarTag} (h : tag.Accepts text) :
    IsNode [.scalar text tag] :=
  ⟨.scalar text tag, ⟨h, trivial, proper_scalarValue text tag⟩, rfl⟩

theorem AreEntries.mapping {keys : List String} {events : List Event} (h : AreEntries keys events)
    (hkeys : keys.Nodup) : IsNode (.mappingStart :: events ++ [.mappingEnd]) := by
  obtain ⟨entries, hsound, rfl, rfl⟩ := h
  have hproper : (Value.map ⟨entries.fields⟩).Proper := .map hkeys hsound.proper
  exact ⟨.mapping entries false, ⟨⟨hsound.valid, by simp⟩, ⟨rfl, hsound.straight⟩, hproper⟩, rfl⟩

theorem AreItems.sequence {events : List Event} (h : AreItems events) :
    IsNode (.sequenceStart :: events ++ [.sequenceEnd]) := by
  obtain ⟨items, hsound, rfl⟩ := h
  have hproper : (Value.seq items.values).Proper := .seq trivial hsound.proper
  exact ⟨.sequence items false, ⟨⟨hsound.valid, by simp⟩, ⟨rfl, hsound.straight⟩, hproper⟩, rfl⟩

namespace AreEntries

variable {keys : List String} {events : List Event}

theorem nil : AreEntries [] [] :=
  ⟨.done, ⟨trivial, trivial, by simp [StreamEntries.fields]⟩, rfl, rfl⟩

theorem comments (h : AreEntries keys events) (texts : List String) :
    AreEntries keys (commentEvents texts ++ events) := by
  induction texts with
  | nil => exact h
  | cons text texts ih =>
    obtain ⟨entries, hsound, hkeys, hevents⟩ := ih
    exact ⟨.comment text entries, ⟨hsound.valid, hsound.straight, hsound.proper⟩, hkeys,
      congrArg (Event.comment text :: ·) hevents⟩

theorem entry {value : List Event} (hvalue : IsNode value) (h : AreEntries keys events)
    (key : String) : AreEntries (key :: keys) (.str key :: value ++ events) := by
  obtain ⟨node, hnode, rfl⟩ := hvalue
  obtain ⟨entries, hsound, rfl, rfl⟩ := h
  refine ⟨.entry key .str [] node entries, ⟨?_, ?_, ?_⟩, rfl, rfl⟩
  · exact ⟨trivial, hnode.valid, hsound.valid⟩
  · exact ⟨hnode.straight, hsound.straight⟩
  · exact List.forall_mem_cons.mpr ⟨hnode.proper, hsound.proper⟩

/-- Entries that are each written in the same way are entries under their keys. -/
theorem flatMap (write : Value → List Event) {entries : List (String × Value)}
    (h : ∀ entry ∈ entries, IsNode (write entry.2)) :
    AreEntries (entries.map Prod.fst)
      (entries.flatMap fun entry => .str entry.1 :: write entry.2) := by
  induction entries with
  | nil => exact nil
  | cons first rest ih =>
    have hrest := ih fun other hother => h other (List.mem_cons_of_mem _ hother)
    exact entry (h first List.mem_cons_self) hrest first.1

end AreEntries

namespace AreItems

variable {events : List Event}

theorem nil : AreItems [] := ⟨.done, ⟨trivial, trivial, by simp [StreamItems.values]⟩, rfl⟩

theorem comments (h : AreItems events) (texts : List String) :
    AreItems (commentEvents texts ++ events) := by
  induction texts with
  | nil => exact h
  | cons text texts ih =>
    obtain ⟨items, hsound, hevents⟩ := ih
    exact ⟨.comment text items, ⟨hsound.valid, hsound.straight, hsound.proper⟩,
      congrArg (Event.comment text :: ·) hevents⟩

theorem item {value : List Event} (hvalue : IsNode value) (h : AreItems events) :
    AreItems (value ++ events) := by
  obtain ⟨node, hnode, rfl⟩ := hvalue
  obtain ⟨items, hsound, rfl⟩ := h
  refine ⟨.item node items, ⟨?_, ?_, ?_⟩, rfl⟩
  · exact ⟨hnode.valid, hsound.valid⟩
  · exact ⟨hnode.straight, hsound.straight⟩
  · exact List.forall_mem_cons.mpr ⟨hnode.proper, hsound.proper⟩

theorem flatMap {α : Type} {as : List α} {write : α → List Event}
    (h : ∀ a ∈ as, IsNode (write a)) : AreItems (as.flatMap write) := by
  induction as with
  | nil => exact nil
  | cons a as ih =>
    exact item (h a List.mem_cons_self) (ih fun b hb => h b (List.mem_cons_of_mem _ hb))

end AreItems

theorem Value.isNode_events {value : Value} (hproper : value.Proper) : IsNode value.events := by
  induction value using Value.induction with
  | null => exact .scalar trivial
  | bool flag =>
    refine .scalar ?_
    cases flag
    · exact .inr rfl
    · exact .inl rfl
  | int number => exact .scalar (Option.isSome_iff_exists.mpr ⟨number, readInt64?_toString number⟩)
  | float number => exact .scalar (Option.isSome_iff_exists.mpr ⟨number, readFloat?_text number⟩)
  | str text => exact .scalar trivial
  | seq items ih =>
    rw [events, itemEvents_eq_flatMap]
    exact (AreItems.flatMap fun item hitem => ih item hitem (hproper.of_item hitem)).sequence
  | map entries ih =>
    rw [events, fieldEvents_eq_flatMap]
    exact (AreEntries.flatMap events fun entry hentry =>
      ih entry hentry (hproper.of_field hentry)).mapping hproper.self

namespace Element

/-! ## The events of elements -/

namespace HasProperDefault

variable {element : Element} {value? : Option Value}

/-- The mapping that is written of a proper value, or of a template, is proper. -/
theorem proper_writtenFields (h : element.HasProperDefault)
    (hvalue : ∀ value ∈ value?, value.Proper) {fields : OrderedMap Value}
    (hfields : element.info.writtenFields? value? = some fields) : (Value.map fields).Proper :=
  Info.of_writtenFields? (fun _ _ => .emptyMap) h.proper hvalue hfields

theorem proper_writtenItems (h : element.HasProperDefault)
    (hvalue : ∀ value ∈ value?, value.Proper) {values : List (Option Value)}
    (hvalues : element.info.writtenItems? value? = some values) {inner? : Option Value}
    (hinner : inner? ∈ values) {value : Value} (hsome : value ∈ inner?) : value.Proper :=
  Info.of_mem_writtenItems? (fun _ hitems _ hitem => hitems.of_item hitem) h.proper hvalue hvalues
    hinner hsome

/-- The entries of the default, that a mapping of an element starts from, have distinct keys. -/
theorem distinct_defaultFields (h : element.HasProperDefault) :
    element.info.defaultFields.Distinct := by
  have hwritten : element.info.writtenFields? none = some element.info.defaultFields := rfl
  exact (h.proper_writtenFields (by simp) hwritten).self

end HasProperDefault

variable {info : Info} {opts : DumpOptions}

theorem exists_commentEvents (element : Element) (opts : DumpOptions) (showName : Bool) :
    ∃ texts, element.commentEvents opts showName = ConfigSchema.commentEvents texts := by
  unfold commentEvents
  split
  · exact ⟨[element.comment opts showName], rfl⟩
  · exact ⟨[], rfl⟩

theorem isNode_codeEvents {value? : Option Value} (h : ∀ value ∈ value?, value.Proper) :
    IsNode (codeEvents value?) := by
  match value? with
  | none => exact AreItems.nil.sequence
  | some (.str block) =>
    rw [codeEvents, List.map_eq_flatMap]
    exact (AreItems.flatMap fun line _ =>
      IsNode.scalar (show ScalarTag.Accepts line .str from trivial)).sequence
  | some .null | some (.bool _) | some (.int _) | some (.float _) | some (.seq _)
  | some (.map _) => exact Value.isNode_events (h _ rfl)

/-- The children that are shown come before other entries, each under its own key. -/
theorem areEntries_childEvents {children : List Element} {fields : OrderedMap Value}
    (h : ∀ child ∈ children, child.isDerived = false →
      IsNode (child.events opts (fields.get? child.key)))
    {keys : List String} {events : List Event} (hmore : AreEntries keys events) :
    ∃ shown, shown.Sublist (children.map key) ∧
      AreEntries (shown ++ keys) (childEvents children opts (some fields) ++ events) := by
  induction children with
  | nil => exact ⟨[], .slnil, hmore⟩
  | cons child rest ih =>
    obtain ⟨shown, hshown, hrest⟩ := ih fun other hother => h other (List.mem_cons_of_mem _ hother)
    simp only [childEvents, Option.bind_some]
    by_cases homitted : child.isOmitted opts (fields.get? child.key) = true
    · rw [if_pos homitted]
      exact ⟨shown, hshown.cons _, hrest⟩
    · rw [if_neg homitted]
      obtain ⟨texts, htexts⟩ := child.exists_commentEvents opts true
      have hinner := h child List.mem_cons_self (not_derived_of_shown homitted)
      have hentry := ((hrest.entry hinner) child.key).comments texts
      refine ⟨child.key :: shown, hshown.cons_cons _, ?_⟩
      simpa [htexts] using hentry

/-- A section is written as a mapping, if its children are written as nodes. -/
theorem isNode_section {children : List Element} {extraKeys : Bool}
    (hc : (keyed info children extraKeys).Checked) {fields : OrderedMap Value}
    (hproper : (Value.map fields).Proper)
    (h : ∀ child ∈ children, child.isDerived = false →
      IsNode (child.events opts (fields.get? child.key))) :
    IsNode (.mappingStart :: childEvents children opts (some fields) ++
      Value.fieldEvents (undeclared children fields) ++ [.mappingEnd]) := by
  have hextras : AreEntries ((undeclared children fields).map Prod.fst)
      (Value.fieldEvents (undeclared children fields)) := by
    rw [Value.fieldEvents_eq_flatMap]
    exact AreEntries.flatMap Value.events fun entry hentry =>
      Value.isNode_events (hproper.of_field (mem_undeclared.mp hentry).1)
  obtain ⟨shown, hshown, hall⟩ := areEntries_childEvents h hextras
  exact hall.mapping (nodup_append_undeclared hc hshown hproper.self)

/-- A category is written as a mapping, if its item writes the values of the entries as nodes. -/
theorem isNode_category {item : Element} {fields : OrderedMap Value} (hd : fields.Distinct)
    (h : ∀ entry ∈ fields.entries, IsNode (item.events opts (some entry.2))) :
    IsNode (.mappingStart :: item.commentEvents opts false ++
      fields.entries.flatMap (fun entry => .str entry.1 :: item.events opts (some entry.2)) ++
      [.mappingEnd]) := by
  obtain ⟨texts, htexts⟩ := item.exists_commentEvents opts false
  rw [htexts]
  have hentries := AreEntries.flatMap (fun value => item.events opts (some value)) h
  exact (hentries.comments texts).mapping hd

/-- A list is written as a sequence, if its item writes all values and templates as nodes. -/
theorem isNode_list {item : Element} {values : List (Option Value)}
    (h : ∀ value? ∈ values, IsNode (item.events opts value?)) :
    IsNode (.sequenceStart :: item.commentEvents opts false ++
      values.flatMap (fun value? => item.events opts value?) ++ [.sequenceEnd]) := by
  obtain ⟨texts, htexts⟩ := item.exists_commentEvents opts false
  rw [htexts]
  exact ((AreItems.flatMap h).comments texts).sequence

/-- The events of an element that is not computed are those of one node, whatever the value is. -/
theorem isNode_events {element : Element} (hc : element.Checked)
    (hdefaults : element.Everywhere HasProperDefault) (hplain : element.isDerived = false)
    (opts : DumpOptions) {value? : Option Value} (hvalue : ∀ value ∈ value?, value.Proper) :
    IsNode (element.events opts value?) := by
  have hgiven : ∀ {value? : Option Value}, (∀ value ∈ value?, value.Proper) →
      IsNode (value?.getD .null).events :=
    fun hvalue => Value.isNode_events (Value.of_getD .null hvalue)
  induction element using Element.induction generalizing value? with
  | scalar info type =>
    exact Value.isNode_events (Value.of_getD (Value.of_getD .null hdefaults.self.proper) hvalue)
  | code info =>
    rw [events]
    refine isNode_codeEvents fun block hblock => ?_
    rcases Option.or_eq_some_iff.mp hblock with hgiven | ⟨-, hdefault⟩
    · exact hvalue block hgiven
    · exact hdefaults.self.proper block hdefault
  | keyed info children extraKeys ih =>
    rw [events_keyed]
    cases hfields : info.writtenFields? value? with
    | none => exact hgiven hvalue
    | some fields =>
      have hproper : (Value.map fields).Proper :=
        hdefaults.self.proper_writtenFields hvalue hfields
      refine isNode_section hc hproper fun child hchild hchildPlain => ?_
      refine ih child hchild (hc.child hchild).2.2 (hdefaults.child hchild) hchildPlain
        fun value hget => ?_
      exact hproper.of_field (OrderedMap.mem_of_lookup hget)
  | category info item minEntries defaultKey? ih =>
    rw [events_category]
    cases hfields : info.writtenFields? value? with
    | none => exact hgiven hvalue
    | some fields =>
      have hproper : (Value.map fields).Proper :=
        hdefaults.self.proper_writtenFields hvalue hfields
      refine isNode_category hproper.self fun entry hentry => ?_
      refine ih hc.entry hdefaults.entry hc.entry_not_derived ?_
      rintro _ ⟨⟩
      exact hproper.of_field hentry
  | list info item minLength? maxLength? ih =>
    rw [events_list]
    cases hvalues : info.writtenItems? value? with
    | none => exact hgiven hvalue
    | some values =>
      refine isNode_list fun inner? hinner => ?_
      refine ih hc.item hdefaults.item hc.item_not_derived fun value hsome => ?_
      exact hdefaults.self.proper_writtenItems hvalue hvalues hinner hsome
  | derived info resolve => cases hplain

/-! ## Main statement -/

/-- A consistent schema dumps any document and its template, with any options. The stream is a
start, at most a comment, exactly one node and an end. It is well nested and has no key twice, it
is written as a text, and it denotes the value of its node. The document need not be valid: all
that is asked of it and of the defaults is that mappings have distinct keys, and insertion makes no
others. -/
theorem exists_dump {schema : Element} (hcheck : schema.check = .ok ())
    (hdefaults : schema.Everywhere HasProperDefault) (opts : DumpOptions)
    {document? : Option Value} (hdocument : ∀ document ∈ document?, document.Proper) :
    ∃ (early : List String) (node : StreamNode) (text : String),
      schema.document opts document? = EventStream.events ⟨early, some node, []⟩ ∧
      node.Sound ∧
      schema.dump opts document? = .ok text ∧
      Value.ofEvents? (schema.document opts document?) = .ok node.value := by
  obtain ⟨node, hsound, hnode⟩ := isNode_events ⟨"", false, hcheck⟩ hdefaults
    (not_derived_of_checkAt hcheck) opts hdocument
  obtain ⟨early, hearly⟩ : ∃ texts,
      (if schema.info.help?.isSome then schema.commentEvents opts true else []) =
        ConfigSchema.commentEvents texts := by
    split
    · exact schema.exists_commentEvents opts true
    · exact ⟨[], rfl⟩
  let stream : EventStream := ⟨early, some node, []⟩
  have hstream : schema.document opts document? = stream.events := by
    simp only [document, hearly, ← hnode]
    simp [stream, EventStream.events, ConfigSchema.commentEvents]
  have hvalid : stream.Valid := by
    rintro _ ⟨⟩
    exact hsound.valid
  refine ⟨early, node, stream.text, hstream, hsound, ?_, ?_⟩
  · rw [dump, hstream, stream.blockText_events hvalid]
    rfl
  · rw [hstream]
    exact EventStream.ofEvents?_events hsound early []

/-- A document that fits the fleet nowhere: the cars are a mapping, a garage is a number, the notes
are no text, the derived entry is given, and one entry is undeclared. -/
def strayFleet : Value := .map ⟨[
  ("car_count", .seq [.null]),
  ("cars", .map ⟨[("color", .bool true)]⟩),
  ("garages", .map ⟨[("north", .int 3), ("", .map ⟨[("doors", .int 2), ("door", .null)]⟩)]⟩),
  ("notes", .seq [.float 0.5, .str "one"]),
  ("wheels", .emptyMap)]⟩

theorem exists_dump_strayFleet :
    ∃ (early : List String) (node : StreamNode) (text : String),
      Samples.fleet.document { omitDefaults := true } (some strayFleet) =
        EventStream.events ⟨early, some node, []⟩ ∧
      node.Sound ∧
      Samples.fleet.dump { omitDefaults := true } (some strayFleet) = .ok text ∧
      Value.ofEvents? (Samples.fleet.document { omitDefaults := true } (some strayFleet)) =
        .ok node.value := by
  have hproper : strayFleet.Proper := by
    simp [strayFleet, Value.Proper.of_scalar, OrderedMap.Distinct, OrderedMap.keys,
      Value.emptyMap, OrderedMap.empty]
  have hdefaults : Samples.fleet.Everywhere HasProperDefault :=
    replayable_fleet.settled.imp fun _ => Settled.toHasProperDefault
  refine exists_dump rfl hdefaults _ ?_
  rintro _ ⟨⟩
  exact hproper

end Element

end ConfigSchema
