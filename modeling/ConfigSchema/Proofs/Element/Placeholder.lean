import ConfigSchema.Proofs.Element.Dumped
import ConfigSchema.Proofs.Element.Overlay

/-!
# What is written where a document has nothing

A document is written part by part: below sections, what is written of a part depends on what the
document has there and on nothing else. A document that has nothing there is written like a
template, and in a template every list shows one example item. So a list that a document leaves out
is written with an item, which the document does not have.

## Main definitions

- `Element.Shows` — names lead to a part through sections, and all on the way is written
- `Value.HasSections` — what a value has on the way along names are mappings

## Main statements

- `Element.below?_dumped` — what is written of a part
- `Element.ofEvents?_document_list` — lists are written with the items that are given, and with one
  item where nothing is given
- `Element.document_adds_item` — so a list that is left out does not stay empty
-/

namespace ConfigSchema

/-- What the value has on the way along names, if it has anything there, are mappings. -/
def Value.HasSections : Value → (names : List String) → Prop
  | _, [] => True
  | .map fields, name :: rest => ∀ inner, fields.get? name = some inner → inner.HasSections rest
  | _, _ :: _ => False

namespace Element

variable {opts : DumpOptions}

/-- Names lead through sections to a part of the schema, past elements that are neither hidden nor
computed. -/
inductive Shows : Element → (names : List String) → (part : Element) → Prop
  | here (element : Element) : Shows element [] element
  | step {info : Info} {children : List Element} {extraKeys : Bool} {child part : Element}
      {names : List String} (hchild : child ∈ children) (hvisible : child.info.hidden = false)
      (hplain : child.isDerived = false) (h : Shows child names part) :
      Shows (keyed info children extraKeys) (child.key :: names) part

theorem Shows.within {schema part : Element} {names : List String} (h : schema.Shows names part) :
    part.Within schema := by
  induction h with
  | here => exact .self
  | step hchild _ _ _ ih => exact .part hchild ih

/-- An element without a default is left out only if it is hidden or computed. -/
theorem isOmitted_eq_false {element : Element} (hvisible : element.info.hidden = false)
    (hplain : element.isDerived = false) (hdefault : element.info.default? = none)
    (opts : DumpOptions) (value? : Option Value) : element.isOmitted opts value? = false := by
  simp [isOmitted, hvisible, hplain, hdefault]

/-- What is written under the name of a child is what is written of the child. -/
theorem get?_dumped {info : Info} {children : List Element} {extraKeys : Bool}
    (hc : (keyed info children extraKeys).Checked) {fields : OrderedMap Value}
    (hfields : fields.Distinct) {child : Element} (hchild : child ∈ children)
    (hshown : child.isOmitted opts (fields.get? child.key) = false) :
    OrderedMap.get? ⟨dumpedEntries children opts fields ++ undeclared children fields⟩ child.key =
      some (child.dumped opts (fields.get? child.key)) := by
  refine OrderedMap.lookup_of_mem (distinct_dumped hc opts hfields) (List.mem_append_left _ ?_)
  exact mem_dumpedEntries.mpr ⟨child, hchild, hshown, rfl⟩

/-- What is written of a part of a schema without defaults is what is written of the value that the
document has there, or of a template if it has none. -/
theorem below?_dumped {schema part : Element} {names : List String} (h : schema.Shows names part)
    (hc : schema.Checked) (hdefaults : schema.Everywhere fun inner => inner.info.default? = none)
    (opts : DumpOptions) {value? : Option Value} (hproper : ∀ value ∈ value?, value.Proper)
    (hsections : ∀ value ∈ value?, value.HasSections names) :
    (schema.dumped opts value?).below? names =
      some (part.dumped opts (value?.bind fun value => value.below? names)) := by
  induction h generalizing value? with
  | here element => cases value? <;> simp
  | @step info children extraKeys child part names hchild hvisible hplain _ ih =>
    have hnone := (hdefaults.child hchild).self
    have hshown := isOmitted_eq_false hvisible hplain hnone opts
    have hstep : ∀ fields : OrderedMap Value, fields.Distinct →
        Value.below? (.map ⟨dumpedEntries children opts fields ++ undeclared children fields⟩)
          (child.key :: names) = (child.dumped opts (fields.get? child.key)).below? names := by
      intro fields hfields
      rw [Value.below?, get?_dumped hc hfields hchild (hshown _), Option.bind_some]
    replace ih := fun inner? => @ih (hc.child hchild).2.2 (hdefaults.child hchild) inner?
    rw [dumped]
    cases value? with
    | none =>
      -- the template of a section without a default is written like an empty section
      have hempty : info.writtenFields? none = some .empty := by
        rw [Info.writtenFields?, Info.defaultFields, show info.default? = none from hdefaults.self]
        rfl
      have hnothing : OrderedMap.empty.get? child.key = (none : Option Value) := rfl
      rw [hempty]
      dsimp only
      rw [hstep .empty List.nodup_nil, hnothing, ih none (by simp) (by simp)]
      rfl
    | some value =>
      have hvalue := hproper value rfl
      have hinner := hsections value rfl
      cases value with
      | map fields =>
        rw [Info.writtenFields?]
        dsimp only
        rw [hstep fields hvalue.self, ih (fields.get? child.key) (fun inner hget =>
          hvalue.of_field (OrderedMap.mem_of_lookup hget)) fun inner hget => hinner inner hget,
          Option.bind_some, Value.below?]
      | _ => exact absurd hinner id

/-- The items that are written of a list without a default: those that are given, and the example of
a template where nothing is given. A value that is no sequence is written as it is. -/
def writtenList (item : Element) (opts : DumpOptions) : Option Value → Value
  | none => .seq [item.dumped opts none]
  | some (.seq items) => .seq (items.map fun value => item.dumped opts (some value))
  | some value => value

theorem dumped_list {info : Info} {item : Element} {minLength? maxLength? : Option Nat}
    (hdefault : info.default? = none) (opts : DumpOptions) (value? : Option Value) :
    (list info item minLength? maxLength?).dumped opts value? = item.writtenList opts value? := by
  rw [dumped]
  cases value? with
  | none => simp [Info.writtenItems?, hdefault, writtenList]
  | some value =>
    cases value with
    | seq items => simp [Info.writtenItems?, writtenList, Function.comp_def]
    | _ => rfl

/-- A document of a schema without defaults can be read back, and a list that names lead to has the
items that the document gives it, each as it is written. A list that the document leaves out, by
itself or with a section around it, has one item nonetheless. -/
theorem ofEvents?_document_list {schema : Element} (hcheck : schema.check = .ok ())
    (hdefaults : schema.Everywhere fun inner => inner.info.default? = none) (opts : DumpOptions)
    {document : Value} (hdocument : document.Proper) :
    ∃ written, Value.ofEvents? (schema.document opts (some document)) = .ok written ∧
      ∀ names info item minLength? maxLength?,
        schema.Shows names (list info item minLength? maxLength?) → document.HasSections names →
        written.below? names = some (item.writtenList opts (document.below? names)) := by
  have hc : schema.Checked := ⟨"", false, hcheck⟩
  have hproper : (schema.dumped opts (some document)).Proper :=
    proper_dumped hc (hdefaults.imp fun _ => .of_none) opts (by simpa using hdocument)
  refine ⟨schema.dumped opts (some document), ofEvents?_document_of hproper
    (withoutComments_dumped hc (not_derived_of_checkAt hcheck) opts _), ?_⟩
  intro names info item minLength? maxLength? hshows hsections
  have hnone : info.default? = none := hdefaults _ hshows.within
  rw [below?_dumped hshows hc hdefaults opts (by simpa using hdocument) (by simpa using hsections),
    dumped_list hnone, Option.bind_some]

/-- A house, its rooms and who lives there with which pets. -/
def household : Element :=
  .keyed {} [
    .list { name? := some "rooms" } (.scalar {} .str) none none,
    .keyed { name? := some "owner" } [
      .list { name? := some "pets" } (.scalar {} .str) none none] false] false

theorem everywhere_household :
    household.Everywhere fun inner => inner.info.default? = none := by
  simp [household, Everywhere.keyed_iff, Everywhere.list_iff, Everywhere.scalar_iff, info]

theorem shows_pets : household.Shows ["owner", "pets"]
    (.list { name? := some "pets" } (.scalar {} .str) none none) := by
  refine .step (List.mem_cons_of_mem _ (List.mem_singleton.mpr rfl)) rfl rfl ?_
  exact .step (List.mem_singleton.mpr rfl) rfl rfl (.here _)

/-- A house with an attic, of which nothing else is known. -/
def atticOnly : Value := .map ⟨[("rooms", .seq [.str "attic"])]⟩

theorem proper_atticOnly : atticOnly.Proper := by
  simp [atticOnly, OrderedMap.Distinct, OrderedMap.keys]

theorem hasSections_atticOnly : atticOnly.HasSections ["owner", "pets"] := by
  rw [atticOnly, Value.HasSections]
  rintro inner ⟨⟩

/-- The attic stays the only room, but now there is a pet, without a name. -/
theorem ofEvents?_document_list_household :
    ∃ written, Value.ofEvents? (household.document {} (some atticOnly)) = .ok written ∧
      written.below? ["rooms"] = some (.seq [.str "attic"]) ∧
      written.below? ["owner", "pets"] = some (.seq [.null]) := by
  have hcheck : household.check = .ok () := rfl
  obtain ⟨written, hwritten, hlists⟩ :=
    ofEvents?_document_list hcheck everywhere_household {} proper_atticOnly
  refine ⟨written, hwritten, ?_, ?_⟩
  · have hrooms := hlists ["rooms"] _ _ _ _ (.step List.mem_cons_self rfl rfl (.here _))
      (by simp [atticOnly, Value.HasSections])
    rw [hrooms]
    rfl
  · rw [hlists _ _ _ _ _ shows_pets hasSections_atticOnly]
    rfl

/-- A list that a document leaves out does not stay empty. -/
theorem document_adds_item :
    ¬ ∀ (schema : Element) (opts : DumpOptions) (document written : Value) (names : List String)
      (info : Info) (item : Element) (minLength? maxLength? : Option Nat),
      schema.check = .ok () → (schema.Everywhere fun inner => inner.info.default? = none) →
      document.Proper → schema.Shows names (list info item minLength? maxLength?) →
      document.HasSections names → document.below? names = none →
      Value.ofEvents? (schema.document opts (some document)) = .ok written →
      written.below? names = none ∨ written.below? names = some .null ∨
        written.below? names = some (.seq []) := by
  intro h
  have hwritten : Value.ofEvents? (household.document {} (some atticOnly)) = .ok _ := rfl
  have hpets := h _ {} _ _ _ _ _ _ _ rfl everywhere_household proper_atticOnly shows_pets
    hasSections_atticOnly rfl hwritten
  rcases hpets with hnone | hnull | hempty
  · cases hnone
  · cases hnull
  · cases hempty

end Element

end ConfigSchema
