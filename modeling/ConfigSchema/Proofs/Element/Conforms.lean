import ConfigSchema.Proofs.Element.Restore

/-!
# Documents that conform to a schema

What a schema promises of its documents, told without validation: by one rule for each kind of
element, from the document alone. Every valid document keeps this promise at every depth.

## Main definitions

- `Info.InRange` — a number is in the range of an element
- `Info.AllowsNull` — a value may be absent
- `Element.Conforms` — a document conforms to an element

## Main statements

- `Element.IsForm.conforms` — a document in the form of an element conforms to it
- `Element.conforms_of_validate` — a valid document conforms to its schema

## Design notes

Nothing is asked of the entries that are computed, nor of the values of undeclared entries.
-/

namespace ConfigSchema

namespace Info

/-- The number is a number if there is a range, and neither below nor above it. -/
structure InRange (info : Info) (number : Float) : Prop where
  ordered : info.min?.isSome ∨ info.max?.isSome → number.isNaN = false
  least : ∀ least, info.min? = some least → ¬number < least
  most : ∀ most, info.max? = some most → ¬number > most

/-- The element is optional and has no default, or its default is null. -/
def AllowsNull (info : Info) : Prop :=
  info.default? = some .null ∨ info.default? = none ∧ info.required = false

end Info

namespace Element

/-- The document conforms to the element. -/
inductive Conforms : Element → Value → Prop
  | scalar {info : Info} {type : ScalarType} {value : Value} (htype : type.Holds value)
      (hchoice : info.choices = [] ∨ ∃ choice ∈ info.choices, sameScalar choice value)
      (hrange : ∀ number, value.asFloat? = some number → info.InRange number) :
      Conforms (.scalar info type) value
  | absentScalar {info : Info} {type : ScalarType} (hnull : info.AllowsNull) :
      Conforms (.scalar info type) .null
  /-- A block of code has no white space at its ends but for one line feed. -/
  | code {info : Info} {text : String} (htrimmed : Text.trimWhite text = text) :
      Conforms (.code info) (.str (text ++ "\n"))
  | absentCode {info : Info} (hnull : info.AllowsNull) : Conforms (.code info) .null
  /-- A section has the declared names in their order, and then the extra keys, if these are
  allowed. -/
  | keyed {info : Info} {children : List Element} {extraKeys : Bool} {fields : OrderedMap Value}
      {extras : List String} (hkeys : fields.keys = children.map key ++ extras)
      (hdistinct : fields.Distinct) (hfolded : fields.Folded info.keyCase)
      (hallowed : extraKeys ∨ extras = [])
      (hchildren : ∀ child ∈ children, child.isDerived = false → ∀ value,
        fields.get? child.key = some value → Conforms child value) :
      Conforms (.keyed info children extraKeys) (.map fields)
  | category {info : Info} {item : Element} {minEntries : Nat} {defaultKey? : Option String}
      {fields : OrderedMap Value} (henough : minEntries ≤ fields.size)
      (hdistinct : fields.Distinct) (hfolded : fields.Folded info.keyCase)
      (hchoices : ∀ key ∈ fields.keys, info.choices = [] ∨ .str key ∈ info.choices)
      (hunshared : ∀ key, defaultKey? = some key → key ∉ fields.keys)
      (hentries : ∀ entry ∈ fields.entries, Conforms item entry.2) :
      Conforms (.category info item minEntries defaultKey?) (.map fields)
  | list {info : Info} {item : Element} {minLength? maxLength? : Option Nat} {items : List Value}
      (hleast : ∀ least, minLength? = some least → least ≤ items.length)
      (hmost : ∀ most, maxLength? = some most → items.length ≤ most)
      (hfilled : info.required → items ≠ []) (hitems : ∀ value ∈ items, Conforms item value) :
      Conforms (.list info item minLength? maxLength?) (.seq items)

end Element

/-! ## What the steps of validation promise -/

namespace Info

variable {info : Info} {path : String}

theorem choice_of_checkChoices {value : Value} (h : info.checkChoices path value = .ok ()) :
    info.choices = [] ∨ ∃ choice ∈ info.choices, sameScalar choice value := by
  unfold Info.checkChoices at h
  split at h
  · rename_i hchoice
    simpa using hchoice
  · cases h

theorem inRange_of_checkRange {value : Value} (h : info.checkRange path value = .ok ())
    {number : Float} (hnumber : value.asFloat? = some number) : info.InRange number := by
  simp only [Info.checkRange, hnumber] at h
  split at h
  · cases h
  · rename_i hordered
    split at h
    · cases h
    · cases h
    · rename_i hleast hmost
      refine ⟨?_, ?_, ?_⟩
      · intro hrange
        simpa [hrange] using hordered
      · rintro least hmin hbelow
        simp [hmin, hbelow] at hleast
      · rintro most hmax habove
        simp [hmax, habove] at hmost

theorem allowsNull_of_absent (h : info.absent path = .ok .null) : info.AllowsNull := by
  rcases absent_eq_ok.mp h with hnull | ⟨hnone, hoptional, -⟩
  · exact .inl hnull
  · exact .inr ⟨hnone, hoptional⟩

/-- A choice is the same document as a text only if it is this text. -/
theorem choice_of_checkKey {key : String} (h : info.checkKey path key = .ok ()) :
    info.choices = [] ∨ .str key ∈ info.choices := by
  unfold Info.checkKey at h
  split at h
  · rename_i hchoice
    simp only [Bool.or_eq_true, List.isEmpty_iff, List.any_eq_true] at hchoice
    refine hchoice.imp_right ?_
    rintro ⟨choice, hmem, hsame⟩
    cases choice with
    | str text =>
      have htext : text = key := eq_of_beq hsame
      rwa [← htext]
    | _ => cases hsame
  · cases h

end Info

/-! ## Documents in their form conform -/

namespace Element

variable {info : Info}

theorem conforms_scalar {type : ScalarType} {document : Value}
    (h : (scalar info type).IsForm document) : (scalar info type).Conforms document := by
  have hvalid : info.validateScalar type "" document = .ok document := h
  cases hnull : document.isNull with
  | true =>
    obtain rfl : document = .null := by
      cases document with
      | null => rfl
      | _ => cases hnull
    exact .absentScalar (Info.allowsNull_of_absent hvalid)
  | false =>
    rw [Info.validateScalar, hnull, if_neg Bool.false_ne_true] at hvalid
    obtain ⟨converted, hconvert, hvalid⟩ := Outcome.bind_eq_ok.mp hvalid
    obtain ⟨⟨⟩, hchoices, hvalid⟩ := Outcome.bind_eq_ok.mp hvalid
    obtain ⟨⟨⟩, hrange, hvalid⟩ := Outcome.bind_eq_ok.mp hvalid
    obtain rfl := Outcome.pure_eq_ok.mp hvalid
    exact .scalar (ScalarType.holds_of_convert hconvert) (Info.choice_of_checkChoices hchoices)
      fun _ => Info.inRange_of_checkRange hrange

theorem conforms_code {document : Value} (h : (code info).IsForm document) :
    (code info).Conforms document := by
  rcases h with ⟨rfl, habsent⟩ | ⟨text, rfl⟩
  · exact .absentCode (Info.allowsNull_of_absent habsent)
  · rw [Info.codeBlock, String.intercalate_singleton]
    exact .code (Text.trimWhite_trimWhite text)

/-- A document in the form of an element conforms to it. -/
theorem IsForm.conforms {element : Element} (hc : element.Checked) {document : Value}
    (h : element.IsForm document) : element.Conforms document := by
  induction element using Element.induction generalizing document with
  | scalar info type => exact conforms_scalar h
  | code info => exact conforms_code h
  | keyed info children extraKeys ih =>
    obtain ⟨fields, extras, hkeys, hallowed, rfl⟩ : ∃ fields extras,
        OrderedMap.keys fields = children.map key ++ extras ∧ (extraKeys ∨ extras = []) ∧
          document = .map fields := by
      obtain ⟨entries, derived, extras, hentries, hderived, hextras, rfl⟩ := h
      refine ⟨_, extras.map Prod.fst, ?_, hextras.allowed.imp_right ?_, rfl⟩
      · rw [← keys_of_resolveDerived hentries.keys hderived, OrderedMap.keys, List.map_append]
        rfl
      · rintro rfl
        rfl
    obtain ⟨hdistinct, hfolded⟩ := h.fields hc
    refine .keyed hkeys hdistinct hfolded hallowed fun child hchild hplain value hvalue => ?_
    obtain ⟨other, hother, hform⟩ := h.child hc hchild hplain
    rw [hother] at hvalue
    obtain rfl := Option.some.inj hvalue
    exact ih child hchild (hc.child hchild).2.2 hform
  | category info item minEntries defaultKey? ih =>
    obtain ⟨fields, hfields, hentries, rfl⟩ := h
    exact .category hfields.enough hfields.distinct hfields.folded
      (fun key hkey => Info.choice_of_checkKey (hfields.choices key hkey)) hfields.unshared
      fun entry hentry => ih hc.entry (hentries entry hentry)
  | list info item minLength? maxLength? ih =>
    obtain ⟨items, hlist, hitems, rfl⟩ := h
    obtain ⟨hleast, hmost⟩ := checkLength_eq_ok_iff.mp hlist.length
    exact .list hleast hmost hlist.filled fun value hvalue => ih hc.item (hitems value hvalue)
  | derived info resolve => cases h

/-- A valid document conforms to its schema at every depth, whatever it was made from. -/
theorem conforms_of_validate {schema : Element} (hcheck : schema.check = .ok ())
    (hs : schema.Everywhere Settled) {raw document : Value} (hraw : raw.Proper)
    (h : schema.validate .full raw = .ok document) : schema.Conforms document := by
  have hc : schema.Checked := ⟨"", false, hcheck⟩
  rw [hs.self.validate] at h
  exact (Settled.isForm hc hs hraw h).conforms hc

/-- The document of a fleet conforms: its garages without the entry of their shared defaults, the
notes as one block, and the number of cars at its place. -/
theorem conforms_of_validate_fleet : Samples.fleet.Conforms fleetDocument :=
  conforms_of_validate rfl replayable_fleet.settled proper_fleetRaw rfl

end Element

end ConfigSchema
