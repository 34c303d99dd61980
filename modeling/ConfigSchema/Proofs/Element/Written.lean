import ConfigSchema.Element.Document
import ConfigSchema.Proofs.Element.Check
import ConfigSchema.Proofs.OrderedMap

/-!
# How the schema writes a value

A collection writes a value of its own shape entry by entry or item by item, and any other value as
it is. Without a value it writes a template of this shape, which it takes from its default.

## Main definitions

- `Info.writtenFields?`, `Info.writtenItems?` — the entries and the items that are written
- `Element.undeclared` — the entries of a section that no child declares

## Main statements

- `Info.of_writtenFields?`, `Info.of_writtenItems?` — what holds of values and of defaults holds of
  what is written
- `Element.nodup_append_undeclared` — no key of a section is written twice
- `Element.events_keyed`, `Element.events_category`, `Element.events_list` — the events of a
  collection, told from what is written
-/

namespace ConfigSchema

/-- What holds of a value that is given and of the value in its place holds of the one that is
taken. -/
theorem Value.of_getD {Q : Value → Prop} {value? : Option Value} {other : Value} (hother : Q other)
    (hvalue : ∀ value ∈ value?, Q value) : Q (value?.getD other) := by
  cases value? with
  | none => exact hother
  | some value => exact hvalue value rfl

namespace Info

/-- The entries that are written of a value, if it is a mapping, or of a template. -/
def writtenFields? (info : Info) : Option Value → Option (OrderedMap Value)
  | none => some info.defaultFields
  | some (.map fields) => some fields
  | some _ => none

/-- The items that are written of a value, if it is a sequence, or of a template. The template of a
list without a default has the template of one item. -/
def writtenItems? (info : Info) : Option Value → Option (List (Option Value))
  | none =>
      match info.default?.bind Value.asSeq? with
      | some items => some (items.map some)
      | none => some [none]
  | some (.seq items) => some (items.map some)
  | some _ => none

/-- What holds of a value and of a default holds of the mapping that is written. Without a mapping
as the default the template is empty. -/
theorem of_writtenFields? {info : Info} {Q : Value → Prop} {value? : Option Value}
    (hempty : value? = none → info.default?.bind Value.asMap? = none → Q .emptyMap)
    (hdefault : ∀ default, info.default? = some default → Q default)
    (hvalue : ∀ value ∈ value?, Q value) {fields : OrderedMap Value}
    (h : info.writtenFields? value? = some fields) : Q (.map fields) := by
  match value? with
  | none =>
    obtain rfl := Option.some.inj h
    cases hmap : info.default?.bind Value.asMap? with
    | none =>
      rw [defaultFields, hmap]
      exact hempty rfl hmap
    | some inner =>
      obtain ⟨default, hsome, hinner⟩ := Option.bind_eq_some_iff.mp hmap
      cases default with
      | map fields =>
        obtain rfl := Option.some.inj hinner
        rw [defaultFields, hmap]
        exact hdefault _ hsome
      | _ => cases hinner
  | some (.map inner) =>
    obtain rfl := Option.some.inj h
    exact hvalue _ rfl

/-- What holds of a value and of a default holds of the sequence that is written, unless this is the
template of one item. -/
theorem of_writtenItems? {info : Info} {Q : Value → Prop} {value? : Option Value}
    (hdefault : ∀ default, info.default? = some default → Q default)
    (hvalue : ∀ value ∈ value?, Q value) {values : List (Option Value)}
    (h : info.writtenItems? value? = some values) :
    value? = none ∧ info.default?.bind Value.asSeq? = none ∧ values = [none] ∨
      ∃ items : List Value, values = items.map some ∧ Q (.seq items) := by
  match value? with
  | none =>
    simp only [writtenItems?] at h
    cases hseq : info.default?.bind Value.asSeq? with
    | none =>
      rw [hseq] at h
      exact .inl ⟨rfl, rfl, (Option.some.inj h).symm⟩
    | some items =>
      rw [hseq] at h
      obtain ⟨default, hsome, hinner⟩ := Option.bind_eq_some_iff.mp hseq
      cases default with
      | seq items' =>
        obtain rfl := Option.some.inj hinner
        exact .inr ⟨items', (Option.some.inj h).symm, hdefault _ hsome⟩
      | _ => cases hinner
  | some (.seq items) => exact .inr ⟨items, (Option.some.inj h).symm, hvalue _ rfl⟩

/-- What a property of sequences says of their items holds of all items that are written. -/
theorem of_mem_writtenItems? {info : Info} {Q P : Value → Prop} {value? : Option Value}
    (hitem : ∀ items, Q (.seq items) → ∀ item ∈ items, P item)
    (hdefault : ∀ default, info.default? = some default → Q default)
    (hvalue : ∀ value ∈ value?, Q value) {values : List (Option Value)}
    (h : info.writtenItems? value? = some values) {inner? : Option Value} (hinner : inner? ∈ values)
    {value : Value} (hsome : value ∈ inner?) : P value := by
  rcases of_writtenItems? hdefault hvalue h with ⟨-, -, rfl⟩ | ⟨items, rfl, hitems⟩
  · obtain rfl := List.mem_singleton.mp hinner
    cases hsome
  · obtain ⟨item, hmem, rfl⟩ := List.mem_map.mp hinner
    obtain rfl := Option.some.inj hsome
    exact hitem items hitems item hmem

end Info

namespace Element

/-- The entries of a mapping that no element of a section declares. -/
def undeclared (children : List Element) (fields : OrderedMap Value) : List (String × Value) :=
  fields.entries.filter fun entry => !children.any (·.isNamed entry.1)

theorem mem_undeclared {children : List Element} {fields : OrderedMap Value}
    {entry : String × Value} :
    entry ∈ undeclared children fields ↔
      entry ∈ fields.entries ∧ children.any (·.isNamed entry.1) = false := by
  simp [undeclared]

/-- Names of children, each of them once, and undeclared keys of a mapping are distinct. -/
theorem nodup_append_undeclared {info : Info} {children : List Element} {extraKeys : Bool}
    (hc : (keyed info children extraKeys).Checked) {names : List String}
    (hnames : names.Sublist (children.map key)) {fields : OrderedMap Value}
    (hd : fields.Distinct) : (names ++ (undeclared children fields).map Prod.fst).Nodup := by
  refine List.nodup_append.mpr ⟨hc.nodup_keys.sublist hnames,
    hd.sublist (List.filter_sublist.map _), ?_⟩
  rintro key hkey _ hundeclared rfl
  have hdeclared := (any_isNamed_iff hc key).mpr (hnames.subset hkey)
  obtain ⟨entry, hentry, rfl⟩ := List.mem_map.mp hundeclared
  rw [(mem_undeclared.mp hentry).2] at hdeclared
  cases hdeclared

/-- What is computed is never written. -/
theorem not_derived_of_shown {element : Element} {opts : DumpOptions} {value? : Option Value}
    (h : ¬element.isOmitted opts value? = true) : element.isDerived = false := by
  simp only [isOmitted, Bool.or_eq_true, not_or] at h
  simpa using h.1.1

/-! ## The events of collections -/

/-- A template of a section is written like the section without entries. -/
theorem childEvents_eq (children : List Element) (opts : DumpOptions)
    (fields? : Option (OrderedMap Value)) :
    childEvents children opts fields? = childEvents children opts (some (fields?.getD .empty)) := by
  cases fields? with
  | some fields => rfl
  | none =>
    induction children with
    | nil => rfl
    | cons child rest ih =>
      rw [childEvents, childEvents, ih]
      rfl

theorem extraEvents_eq (children : List Element) (fields? : Option (OrderedMap Value)) :
    extraEvents children fields? =
      Value.fieldEvents (undeclared children (fields?.getD .empty)) := by
  cases fields? <;> rfl

variable (info : Info) (item : Element) (opts : DumpOptions) (value? : Option Value)

theorem events_keyed (children : List Element) (extraKeys : Bool) :
    (keyed info children extraKeys).events opts value? =
      match info.writtenFields? value? with
      | some fields => .mappingStart :: childEvents children opts (some fields) ++
          Value.fieldEvents (undeclared children fields) ++ [.mappingEnd]
      | none => (value?.getD .null).events := by
  match value? with
  | none =>
    rw [events]
    dsimp only
    rw [childEvents_eq, extraEvents_eq]
    rfl
  | some (.map fields) => rfl
  | some .null | some (.bool _) | some (.int _) | some (.float _) | some (.str _)
  | some (.seq _) => rfl

theorem events_category (minEntries : Nat) (defaultKey? : Option String) :
    (category info item minEntries defaultKey?).events opts value? =
      match info.writtenFields? value? with
      | some fields => .mappingStart :: item.commentEvents opts false ++
          fields.entries.flatMap (fun entry => .str entry.1 :: item.events opts (some entry.2)) ++
          [.mappingEnd]
      | none => (value?.getD .null).events := by
  match value? with
  | none =>
    have hentries : ((info.default?.bind Value.asMap?).map OrderedMap.entries).getD [] =
        info.defaultFields.entries := by
      rw [Info.defaultFields]
      cases info.default?.bind Value.asMap? <;> rfl
    rw [events]
    dsimp only
    rw [hentries]
    rfl
  | some (.map fields) => rfl
  | some .null | some (.bool _) | some (.int _) | some (.float _) | some (.str _)
  | some (.seq _) => rfl

theorem events_list (minLength? maxLength? : Option Nat) :
    (list info item minLength? maxLength?).events opts value? =
      match info.writtenItems? value? with
      | some values => .sequenceStart :: item.commentEvents opts false ++
          values.flatMap (fun inner? => item.events opts inner?) ++ [.sequenceEnd]
      | none => (value?.getD .null).events := by
  match value? with
  | none =>
    rw [events, Info.writtenItems?]
    cases info.default?.bind Value.asSeq? with
    | none => simp only [List.flatMap_singleton]
    | some items => simp only [List.flatMap_map]
  | some (.seq items) =>
    simp only [events, Info.writtenItems?, List.flatMap_map]
  | some .null | some (.bool _) | some (.int _) | some (.float _) | some (.str _)
  | some (.map _) => rfl

end Element

end ConfigSchema
