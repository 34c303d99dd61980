import ConfigSchema.Proofs.Element.Sections

/-!
# Absent values

What validation makes of an absent value of an element that declares a default. The default stands
for the value, but each kind of element reads it in its own way: scalars and blocks of code do not
bring it into their types, sections do not fold its keys, categories do not look at its entries, and
lists take it for a default only if it is a sequence.

## Main definitions

- `Element.fill` — what an absent value becomes, told from the default
- `Element.DefaultStands` — the default needs nothing of what an absent value misses

## Main statements

- `Element.validate_absent` — an absent value becomes what is filled in, and this is what the
  default becomes if it stands
- `Element.validate_absent_lone` — a lone value does not stand as the default of a list
-/

namespace ConfigSchema.Element

variable {info : Info}

/-- What an absent value becomes where a default is declared. -/
def fill (element : Element) (default : Value) : Except Failure Value :=
  match element with
  | scalar _ _ | code _ => .ok default
  | keyed info children extraKeys =>
      (keyed { info with keyCase := .mixed } children extraKeys).validate .full default
  | category _ _ minEntries _ =>
      let fields := (default.asMap?).getD .empty
      if fields.size < minEntries then .error (.invalid "" (.tooFewEntries minEntries fields.size))
      else .ok (.map fields)
  | list info item minLength? maxLength? =>
      match default with
      | .seq _ => (list info item minLength? maxLength?).validate .full default
      | _ =>
          if info.required then .error (.missing "")
          else (list info item minLength? maxLength?).validate .full (.seq [])
  | derived _ _ => .error (.schema "" .loneDerived)

/-- The default is read like a value that is given: the default of a section has folded keys, that
of a list is a sequence, and all others are valid documents as they stand. -/
def DefaultStands (element : Element) (default : Value) : Prop :=
  match element with
  | keyed info _ _ => ∀ fields, default = .map fields → info.foldKeys "" fields = .ok fields
  | list _ _ _ _ => ∃ items, default = .seq items
  | _ => element.validate .full default = .ok default

/-- The default of a consistent section is a mapping. -/
theorem Checked.map_default {children : List Element} {extraKeys : Bool}
    (hc : (keyed info children extraKeys).Checked) {default : Value}
    (hdefault : info.default? = some default) (hgiven : default ≠ .null) :
    ∃ fields, default = .map fields := by
  obtain ⟨path, layer, h⟩ := hc.valid_default hdefault
  cases default with
  | null => exact absurd rfl hgiven
  | map fields => exact ⟨fields, rfl⟩
  | _ => cases h

/-- A section is filled in from its default as it would be if it did not fold its keys. -/
theorem fill_keyed {children : List Element} {extraKeys : Bool}
    (hp : (keyed info children extraKeys).Plain) (default : Value) :
    (keyed info children extraKeys).fill default =
      (keyed { info with keyCase := .mixed } children extraKeys).validateAt .full "" default :=
  validate_of_unfinished (show
    (keyed { info with keyCase := .mixed } children extraKeys).info.finish? = none from
      hp.unfinished) .full default

theorem validateAt_null_keyed {children : List Element} {extraKeys : Bool}
    (hc : (keyed info children extraKeys).Checked) {default : Value}
    (hdefault : info.default? = some default) (hgiven : default ≠ .null) :
    (keyed info children extraKeys).validateAt .full "" .null =
      (keyed { info with keyCase := .mixed } children extraKeys).validateAt .full "" default := by
  obtain ⟨fields, rfl⟩ := hc.map_default hdefault hgiven
  have hnull : info.sectionFields "" .null = .ok fields := by
    rw [Info.sectionFields, Info.absent_eq_ok.mpr (.inl hdefault)]
    rfl
  rw [validateAt_keyed (.inl rfl), validateAt_keyed (.inl rfl), hnull]
  rfl

theorem validateAt_null_category {item : Element} {minEntries : Nat}
    {defaultKey? : Option String} (hp : item.Plain) {default : Value}
    (hdefault : info.default? = some default) :
    (category info item minEntries defaultKey?).validateAt .full "" .null =
      (category info item minEntries defaultKey?).fill default := by
  have hnull : info.categoryFields "" .null = .ok .empty := by
    simp [Info.categoryFields, hdefault]
  have hstart : startEntries info .full = (default.asMap?).getD .empty := by
    simp [startEntries, Info.defaultFields, hdefault]
  rw [validateAt_category (.inl rfl), hnull, Outcome.ok_bind, takeShared_empty, Outcome.ok_bind,
    hstart]
  simp only [finishEntries_of_finish hp.finish]
  rfl

theorem validateAt_null_list {item : Element} {minLength? maxLength? : Option Nat}
    (hp : (list info item minLength? maxLength?).Plain) {default : Value}
    (hdefault : info.default? = some default) :
    (list info item minLength? maxLength?).validateAt .full "" .null =
      (list info item minLength? maxLength?).fill default := by
  cases default with
  | seq items =>
    rw [fill, hp.validate, validateAt_list (.inl rfl), validateAt_list (.inl rfl)]
    simp only [Info.listItems, hdefault]
  | _ =>
    -- a lone value counts as no default
    simp only [fill, hp.validate]
    rw [validateAt_list (.inl rfl), validateAt_list (.inl rfl)]
    simp only [Info.listItems, hdefault]
    split <;> rfl

/-- An absent value becomes what its default fills in. -/
theorem validate_null {element : Element} (hc : element.Checked)
    (hp : element.Everywhere Plain) {default : Value}
    (hdefault : element.info.default? = some default) (hgiven : default ≠ .null) :
    element.validate .full .null = element.fill default := by
  rw [hp.self.validate]
  cases element with
  | scalar info type => exact Info.absent_eq_ok.mpr (.inl hdefault)
  | code info => exact Info.absent_eq_ok.mpr (.inl hdefault)
  | keyed info children extraKeys =>
    rw [fill_keyed hp.self]
    exact validateAt_null_keyed hc hdefault hgiven
  | category info item minEntries defaultKey? =>
    exact validateAt_null_category hp.entry.self hdefault
  | list info item minLength? maxLength? => exact validateAt_null_list hp.self hdefault
  | derived info resolve => rfl

/-- What a default fills in is what it becomes when it is given, if it stands. -/
theorem fill_of_defaultStands {element : Element} (hc : element.Checked)
    (hp : element.Everywhere Plain) {default : Value}
    (hdefault : element.info.default? = some default) (hgiven : default ≠ .null)
    (hstands : element.DefaultStands default) :
    element.fill default = element.validate .full default := by
  cases element with
  | scalar info type => exact hstands.symm
  | code info => exact hstands.symm
  | keyed info children extraKeys =>
    obtain ⟨fields, rfl⟩ := hc.map_default hdefault hgiven
    have hread : info.sectionFields "" (.map fields) = .ok fields := hstands fields rfl
    rw [fill_keyed hp.self, hp.self.validate, validateAt_keyed (.inl rfl),
      validateAt_keyed (.inl rfl), hread]
    rfl
  | category info item minEntries defaultKey? =>
    have hvalid : (category info item minEntries defaultKey?).validate .full default =
        .ok default := hstands
    rw [hvalid]
    rw [hp.self.validate, validateAt_category_iff hp.entry.self (.inl rfl)] at hvalid
    obtain ⟨-, -, -, entries, -, -, -, hsize, rfl⟩ := hvalid
    exact if_neg (Nat.not_lt.mpr hsize)
  | list info item minLength? maxLength? =>
    obtain ⟨items, rfl⟩ := hstands
    rfl
  | derived info resolve => cases hstands

/-- An absent value becomes what its default fills in. This is the same as if the default had been
given, a failure included, if the default stands. -/
theorem validate_absent {schema part : Element} (hcheck : schema.check = .ok ())
    (hp : schema.Everywhere Plain) (hpart : part.Within schema)
    {default : Value} (hdefault : part.info.default? = some default) (hgiven : default ≠ .null) :
    part.validate .full .null = part.fill default ∧
      (part.DefaultStands default →
        part.validate .full .null = part.validate .full default) := by
  have hc : part.Checked := Checked.within ⟨"", false, hcheck⟩ hpart
  have hp : part.Everywhere Plain := hp.of_within hpart
  have hnull := validate_null hc hp hdefault hgiven
  exact ⟨hnull, fun hstands => hnull.trans (fill_of_defaultStands hc hp hdefault hgiven hstands)⟩

/-- The second number of a pair may be left out. -/
theorem validate_absent_pair :
    ∃ part : Element, part.Within Samples.pair ∧
      part.validate .full .null = part.validate .full (.int 5) := by
  let part : Element := .scalar { name? := some "b", default? := some (.int 5) } .int
  have hp : Samples.pair.Everywhere Plain := by
    refine .of_parts ⟨rfl⟩ fun inner hinner => ?_
    simp only [Samples.pair, parts, List.mem_cons, List.not_mem_nil, or_false] at hinner
    rcases hinner with rfl | rfl
    · exact .of_parts ⟨rfl⟩ (by simp [parts])
    · exact .of_parts ⟨rfl⟩ (by simp [parts])
  have hpart : part.Within Samples.pair :=
    .part (show part ∈ Samples.pair.parts by simp [part, Samples.pair, parts]) .self
  exact ⟨part, hpart, (validate_absent rfl hp hpart rfl (by simp)).2 rfl⟩

/-- A lone value as the default of a list is valid, but an absent list does not become the list of
this one item: where it is required, it counts as missing. -/
theorem validate_absent_lone :
    ∃ (schema : Element) (default : Value), schema.check = .ok () ∧
      (schema.Everywhere Plain) ∧
      schema.info.default? = some default ∧ default ≠ .null ∧
      schema.validate .full .null = .error (.missing "") ∧
      schema.validate .full default = .ok (.seq [default]) := by
  refine ⟨.list { default? := some (.int 5), required := true } (.scalar {} .int) none none,
    .int 5, rfl, ?_, rfl, by simp, rfl, rfl⟩
  refine .of_parts ⟨rfl⟩ fun inner hinner => ?_
  obtain rfl := List.mem_singleton.mp hinner
  exact .of_parts ⟨rfl⟩ (by simp [parts])

end ConfigSchema.Element
