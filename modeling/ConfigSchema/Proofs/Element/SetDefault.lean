import ConfigSchema.Proofs.Element.Merge
import ConfigSchema.Proofs.Element.Place

/-!
# Defaults put into documents

Putting the default of an element into a document makes the containers that are missing on the way.
If it succeeds, the default is found at its path, and at paths that diverge from it all that was
found before. If it fails, what it has made on the way stays, and nothing else has changed.

## Main definitions

- `Value.withChild?` — a value with another one below it, which may be new
- `Element.Opened` — a document and what it becomes where containers are made on the way

## Main statements

- `Element.setDefaultFrom_cons` — all that one step can do
- `Element.setDefault_stores` — what holds of a document in which a default has been put
- `Element.opened_of_setDefault` — what holds of a document in which no default could be put
-/

namespace ConfigSchema

namespace OrderedMap

variable {α : Type}

/-- Of two insertions under a key the second one counts. -/
theorem insert_insert (m : OrderedMap α) (key : String) (one other : α) :
    (m.insert key one).insert key other = m.insert key other := by
  obtain ⟨entries⟩ := m
  simp only [insert, mk.injEq]
  induction entries with
  | nil => simp [insertEntry]
  | cons entry rest ih =>
    obtain ⟨k, v⟩ := entry
    by_cases hk : k = key
    · simp [insertEntry, hk]
    · simp [insertEntry, hk, ih]

end OrderedMap

namespace Value

/-! ## Values with another one below -/

/-- The value with another one below it, in place of the one that is there. Where there is none, it
is added: under a new key at the end of a mapping, or at the position after the last one of a
list. -/
def withChild? (value : Value) (step : String) (child : Value) : Option Value :=
  match value with
  | .map fields => some (.map (fields.insert step child))
  | .seq items =>
      (Path.index? step).bind fun index =>
        if index < items.length then some (.seq (items.set index child))
        else if index = items.length then some (.seq (items ++ [child]))
        else none
  | _ => none

/-- In place of a value that is there, another one is put. -/
theorem withChild?_eq_putBelow {value child : Value} {step : String}
    (h : value.child? step = some child) (new : Value) :
    value.withChild? step new = some (value.putBelow step new) := by
  cases value with
  | map fields =>
    rw [child?] at h
    rw [withChild?, putBelow, OrderedMap.modify, h]
  | seq items =>
    obtain ⟨index, hindex, hget⟩ := Option.bind_eq_some_iff.mp h
    obtain ⟨hlt, -⟩ := List.getElem?_eq_some_iff.mp hget
    rw [withChild?, putBelow, hindex, Option.bind_some, if_pos hlt, Option.getD_some]
  | _ => cases h

/-- A list with another item below it: the position and how the item is put there. -/
theorem withChild?_seq {items : List Value} {step : String} {new result : Value}
    (h : (Value.seq items).withChild? step new = some result) :
    ∃ index, Path.index? step = some index ∧
      (index < items.length ∧ result = .seq (items.set index new) ∨
        index = items.length ∧ result = .seq (items ++ [new])) := by
  obtain ⟨index, hindex, h⟩ := Option.bind_eq_some_iff.mp h
  refine ⟨index, hindex, ?_⟩
  split at h
  · exact .inl ⟨‹_›, (Option.some.inj h).symm⟩
  · split at h
    · exact .inr ⟨‹_›, (Option.some.inj h).symm⟩
    · cases h

/-- The value that has been put below is there. -/
theorem child?_of_withChild? {value new result : Value} {step : String}
    (h : value.withChild? step new = some result) : result.child? step = some new := by
  cases value with
  | map fields =>
    obtain rfl := Option.some.inj h
    rw [child?, OrderedMap.get?_insert, if_pos rfl]
  | seq items =>
    obtain ⟨index, hindex, ⟨hlt, rfl⟩ | ⟨rfl, rfl⟩⟩ := withChild?_seq h
    · rw [child?, hindex, Option.bind_some, List.getElem?_set_self hlt]
    · rw [child?, hindex, Option.bind_some, List.getElem?_concat_length]
  | _ => cases h

/-- What is below at other places stays there. -/
theorem child?_withChild?_of_separates {value new result child : Value} {step other : String}
    (h : value.withChild? step new = some result) (hother : value.Separates step other)
    (hchild : value.child? other = some child) : result.child? other = some child := by
  cases value with
  | map fields =>
    obtain rfl := Option.some.inj h
    have hne : other ≠ step := Ne.symm hother
    rw [child?, OrderedMap.get?_insert, if_neg hne]
    exact hchild
  | seq items =>
    obtain ⟨found, hfound, hget⟩ := Option.bind_eq_some_iff.mp hchild
    obtain ⟨hlt, -⟩ := List.getElem?_eq_some_iff.mp hget
    obtain ⟨index, hindex, hresult⟩ := withChild?_seq h
    have hne : index ≠ found := by
      rintro rfl
      exact hother (hindex.trans hfound.symm)
    rcases hresult with ⟨-, rfl⟩ | ⟨-, rfl⟩
    · rw [child?, hfound, Option.bind_some, List.getElem?_set_ne hne, hget]
    · rw [child?, hfound, Option.bind_some, List.getElem?_append_left hlt, hget]
  | _ => cases h

end Value

namespace Element

variable {path : String}

/-! ## Steps -/

/-- Where a value is below, room is made already. -/
theorem makeRoom_of_child? {value child : Value} {step : String}
    (h : value.child? step = some child) : makeRoom path step value = .ok (value, child) := by
  cases value with
  | map fields =>
    rw [Value.child?] at h
    have hcontains : fields.contains step :=
      (fields.contains_iff step).mpr ((fields.get?_isSome_iff step).mp (by rw [h]; rfl))
    rw [makeRoom, OrderedMap.insertIfNew, if_pos hcontains, h, Option.getD_some]
  | seq items =>
    obtain ⟨index, hindex, hget⟩ := Option.bind_eq_some_iff.mp h
    obtain ⟨hlt, -⟩ := List.getElem?_eq_some_iff.mp hget
    have hold : (Path.index? step == some items.length) = false := by
      rw [hindex, beq_eq_false_iff_ne]
      rintro ⟨⟩
      exact lt_irrefl _ hlt
    rw [makeRoom, hold, if_neg Bool.false_ne_true, Value.position_eq_ok_iff.mpr ⟨hindex, hlt⟩]
    simp only [Outcome.ok_bind, List.getD_eq_getElem?_getD, hget, Option.getD_some]
    rfl
  | _ => cases h

/-- Room is made for one more value. What is inside is what was there, or null. -/
theorem makeRoom_eq_ok {value roomy inside : Value} {step : String}
    (h : makeRoom path step value = .ok (roomy, inside)) :
    inside = (value.child? step).getD .null ∧
      ∀ new, value.withChild? step new = some (roomy.putBelow step new) := by
  cases hchild : value.child? step with
  | some child =>
    rw [makeRoom_of_child? hchild] at h
    obtain ⟨rfl, rfl⟩ := Prod.mk.inj (Except.ok.inj h)
    exact ⟨rfl, Value.withChild?_eq_putBelow hchild⟩
  | none =>
    cases value with
    | map fields =>
      rw [Value.child?] at hchild
      have hnew : fields.contains step = false :=
        (fields.contains_eq_false_iff step).mpr ((fields.get?_eq_none_iff step).mp hchild)
      rw [makeRoom, OrderedMap.insertIfNew, hnew, if_neg Bool.false_ne_true, OrderedMap.get?_insert,
        if_pos rfl] at h
      obtain ⟨rfl, rfl⟩ := Prod.mk.inj (Except.ok.inj h)
      refine ⟨rfl, fun new => ?_⟩
      rw [Value.withChild?, Value.putBelow, OrderedMap.modify, OrderedMap.get?_insert, if_pos rfl]
      dsimp only
      rw [OrderedMap.insert_insert]
    | seq items =>
      rw [makeRoom] at h
      obtain ⟨index, hposition, h⟩ := Outcome.bind_eq_ok.mp h
      obtain ⟨hindex, hlt⟩ := Value.position_eq_ok_iff.mp hposition
      rw [Value.child?, hindex, Option.bind_some, List.getElem?_eq_none_iff] at hchild
      -- no other position than the one after the last is new and has a place
      obtain rfl : index = items.length := by
        by_contra hne
        have hnotLast : (Path.index? step == some items.length) = false := by
          rw [hindex, beq_eq_false_iff_ne]
          exact fun heq => hne (Option.some.inj heq)
        rw [hnotLast, if_neg Bool.false_ne_true] at hlt
        omega
      have hlast : (Path.index? step == some items.length) = true := by rw [hindex, BEq.rfl]
      rw [hlast, if_pos rfl] at h
      obtain ⟨rfl, rfl⟩ := Prod.mk.inj (Outcome.pure_eq_ok.mp h)
      refine ⟨by simp [List.getD_eq_getElem?_getD], fun new => ?_⟩
      rw [Value.withChild?, Value.putBelow, hindex, Option.bind_some, if_neg (lt_irrefl _),
        if_pos rfl, Option.getD_some, List.set_append_right _ _ le_rfl, Nat.sub_self]
      rfl
    | _ => cases h

/-- A value is a container already, or an empty one is made in place of null: a mapping for what
holds fields, and a list for a list. -/
theorem container_eq_ok {element : Element} {value container : Value}
    (h : element.container path value = .ok container) :
    value.isNull = false ∧ container = value ∨
      value = .null ∧ (element.holdsFields ∧ container = .emptyMap ∨
        element.isList ∧ container = .seq []) := by
  cases value with
  | null =>
    refine .inr ⟨rfl, ?_⟩
    cases element with
    | keyed | category => exact .inl ⟨rfl, (Except.ok.inj h).symm⟩
    | list => exact .inr ⟨rfl, (Except.ok.inj h).symm⟩
    | _ => cases h
  | _ => exact .inl ⟨rfl, (Except.ok.inj h).symm⟩

/-- What is not null is taken as the container. -/
theorem container_of_not_null {element : Element} {value : Value} (h : value.isNull = false) :
    element.container path value = .ok value := by
  cases value <;> first | rfl | cases h

/-- What is not null stays as it is. -/
theorem eq_of_container {element : Element} {value container : Value} (hnull : value.isNull = false)
    (h : element.container path value = .ok container) : container = value := by
  rw [container_of_not_null hnull] at h
  exact (Except.ok.inj h).symm

/-- The default of an element can be put into a document at a path. -/
def Provides (element : Element) (path : String) : Prop :=
  element.isDerived = false ∧ ∃ default, element.defaultAt path = .ok default

/-- What one step can do. It fails and leaves the value as it is, or with the empty container in
place of null; or it goes on below, where null stands for what is missing. -/
theorem setDefaultFrom_cons (element : Element) (path : String) (value : Value) (step : String)
    (rest : List String) :
    (∃ after failure, (after = value ∨
        element.container (Path.join path step) value = .ok after) ∧
      element.setDefaultFrom path value (step :: rest) = ⟨after, some failure⟩) ∨
    ∃ child container inner,
      element.child? step = some child ∧ (rest = [] → child.Provides (Path.join path step)) ∧
      element.container (Path.join path step) value = .ok container ∧
      child.setDefaultFrom (Path.join path step) ((container.child? step).getD .null) rest =
        inner ∧
      container.withChild? step inner.document =
        some (element.setDefaultFrom path value (step :: rest)).document ∧
      (element.setDefaultFrom path value (step :: rest)).failure? = inner.failure? := by
  rw [setDefaultFrom]
  dsimp only
  cases hchild : element.child? step with
  | none => exact .inl ⟨value, _, .inl rfl, rfl⟩
  | some child =>
    dsimp only
    split
    · exact .inl ⟨value, _, .inl rfl, rfl⟩
    · rename_i hready
      cases hcontainer : element.container (Path.join path step) value with
      | error failure => exact .inl ⟨value, failure, .inl rfl, rfl⟩
      | ok container =>
        dsimp only
        cases hroom : makeRoom (Path.join path step) step container with
        | error failure => exact .inl ⟨container, failure, .inr rfl, rfl⟩
        | ok room =>
          obtain ⟨roomy, inside⟩ := room
          obtain ⟨rfl, hput⟩ := makeRoom_eq_ok hroom
          refine .inr ⟨child, container, _, rfl, ?_, rfl, rfl, hput _, rfl⟩
          rintro rfl
          rw [List.isEmpty_nil, Bool.not_true, if_neg Bool.false_ne_true] at hready
          split at hready
          · cases hready
          · rename_i hplain
            obtain ⟨default, hdefault, -⟩ := Outcome.map_eq_ok hready
            exact ⟨Bool.eq_false_iff.mpr hplain, default, hdefault⟩

/-- Where there is a value below, the step goes on there. -/
theorem setDefaultFrom_of_child? {element child : Element} {value inside : Value} {step : String}
    {rest : List String} (hchild : element.child? step = some child)
    (hprovides : rest = [] → child.Provides (Path.join path step))
    (hinside : value.child? step = some inside) :
    element.setDefaultFrom path value (step :: rest) =
      ⟨value.putBelow step (child.setDefaultFrom (Path.join path step) inside rest).document,
        (child.setDefaultFrom (Path.join path step) inside rest).failure?⟩ := by
  have hcontainer : element.container (Path.join path step) value = .ok value :=
    container_of_not_null (Value.isNull_of_child? hinside)
  rw [setDefaultFrom]
  dsimp only
  rw [hchild]
  dsimp only
  split
  · rename_i failure hready
    cases rest with
    | nil =>
      obtain ⟨hplain, default, hdefault⟩ := hprovides rfl
      rw [List.isEmpty_nil, Bool.not_true, if_neg Bool.false_ne_true, hplain,
        if_neg Bool.false_ne_true, hdefault] at hready
      cases hready
    | cons next more => cases hready
  · rw [hcontainer]
    dsimp only
    rw [makeRoom_of_child? hinside]

/-! ## A default that has been put into a document -/

/-- Where a default has been put, steps have led to an element, and its default is what they lead to
in the document. -/
theorem exists_of_setDefaultFrom {element : Element} {value : Value} {steps : List String}
    (h : (element.setDefaultFrom path value steps).failure? = none) (p : String) :
    ∃ target default, element.lookupFrom p steps = .ok target ∧
      target.defaultAt "" = .ok default ∧
      (element.setDefaultFrom path value steps).document.at? steps = some default := by
  induction steps generalizing element value path p with
  | nil =>
    rw [setDefaultFrom] at h ⊢
    cases hdefault : element.defaultAt path with
    | error failure =>
      rw [hdefault] at h
      cases h
    | ok default =>
      exact ⟨element, default, rfl, (defaultAt_alike element path "" default).mp hdefault, rfl⟩
  | cons step rest ih =>
    rcases element.setDefaultFrom_cons path value step rest with
      ⟨after, failure, -, hfails⟩ | ⟨child, container, inner, hchild, -, -, rfl, hput, hfailure⟩
    · rw [hfails] at h
      cases h
    · rw [hfailure] at h
      obtain ⟨target, default, hlookup, hdefault, hat⟩ := ih h (Path.join p step)
      refine ⟨target, default, ?_, hdefault, ?_⟩
      · rw [lookupFrom, hchild]
        exact hlookup
      · rw [Value.at?_cons, Value.child?_of_withChild? hput, Option.bind_some, hat]

/-- Putting the same default once more changes nothing. -/
theorem setDefaultFrom_again {element : Element} {value : Value} {steps : List String}
    (h : (element.setDefaultFrom path value steps).failure? = none) :
    element.setDefaultFrom path (element.setDefaultFrom path value steps).document steps =
      ⟨(element.setDefaultFrom path value steps).document, none⟩ := by
  induction steps generalizing element value path with
  | nil =>
    simp only [setDefaultFrom] at h ⊢
    cases hdefault : element.defaultAt path with
    | error failure =>
      rw [hdefault] at h
      cases h
    | ok default => rfl
  | cons step rest ih =>
    rcases element.setDefaultFrom_cons path value step rest with
      ⟨after, failure, -, hfails⟩ |
        ⟨child, container, inner, hchild, hprovides, -, rfl, hput, hfailure⟩
    · rw [hfails] at h
      cases h
    · rw [hfailure] at h
      have hinside := Value.child?_of_withChild? hput
      rw [setDefaultFrom_of_child? hchild hprovides hinside, ih h]
      dsimp only
      rw [Value.putBelow_self hinside]

/-- What diverging paths lead to stays there, whether the default can be put or not. -/
theorem at?_setDefaultFrom {element : Element} {value found : Value} {steps others : List String}
    (hdiverge : value.Diverge steps others) (hat : value.at? others = some found) :
    (element.setDefaultFrom path value steps).document.at? others = some found := by
  induction hdiverge generalizing element path with
  | @here value step other hseparates ones others =>
    obtain ⟨inside, hinside, hrest⟩ := Option.bind_eq_some_iff.mp hat
    have hnull := Value.isNull_of_child? hinside
    rcases element.setDefaultFrom_cons path value step ones with
      ⟨after, failure, hafter, hfails⟩ | ⟨child, container, inner, -, -, hmade, -, hput, -⟩
    · obtain rfl : after = value := hafter.elim id (eq_of_container hnull)
      rw [hfails]
      exact hat
    · obtain rfl := eq_of_container hnull hmade
      rw [Value.at?_cons, Value.child?_withChild?_of_separates hput hseparates hinside]
      exact hrest
  | @step value below step ones others hbelow _ ih =>
    have hnull := Value.isNull_of_child? hbelow
    rcases element.setDefaultFrom_cons path value step ones with
      ⟨after, failure, hafter, hfails⟩ | ⟨child, container, inner, -, -, hmade, rfl, hput, -⟩
    · obtain rfl : after = value := hafter.elim id (eq_of_container hnull)
      rw [hfails]
      exact hat
    · obtain rfl := eq_of_container hnull hmade
      rw [Value.at?_cons, hbelow, Option.bind_some] at hat
      rw [Value.at?_cons, Value.child?_of_withChild? hput, Option.bind_some, hbelow]
      exact ih hat

/-- Steps that lead to an element are let through. -/
theorem admits_of_lookupFrom {element target : Element} {steps : List String}
    (h : element.lookupFrom path steps = .ok target) : Admits (some element) steps := by
  induction steps generalizing element path with
  | nil => trivial
  | cons step rest ih =>
    rw [lookupFrom] at h
    rw [Admits]
    cases hchild : element.child? step with
    | none =>
      rw [hchild] at h
      cases h
    | some child =>
      rw [hchild] at h
      exact ih h

/-- Where a default has been put into a document, it is the default of the element at the path, and
found there in the document. Putting it once more changes nothing, and what was found at diverging
paths is found there still. -/
theorem setDefault_stores {schema : Element} {document : Value} {dotted : String}
    (h : (schema.setDefault document dotted).failure? = none) :
    (∃ target default, schema.lookup dotted = .ok target ∧ target.defaultAt "" = .ok default ∧
        schema.find (schema.setDefault document dotted).document dotted = .ok default) ∧
      schema.setDefault (schema.setDefault document dotted).document dotted =
        ⟨(schema.setDefault document dotted).document, none⟩ ∧
      ∀ other found, document.Diverge (Path.segments dotted) (Path.segments other) →
        schema.find document other = .ok found →
        schema.find (schema.setDefault document dotted).document other = .ok found := by
  refine ⟨?_, setDefaultFrom_again h, fun other found hdiverge hfound => ?_⟩
  · obtain ⟨target, default, hlookup, hdefault, hat⟩ := exists_of_setDefaultFrom h ""
    exact ⟨target, default, hlookup, hdefault,
      findFrom_eq_ok_iff.mpr ⟨admits_of_lookupFrom hlookup, hat⟩⟩
  · obtain ⟨hadmits, hat⟩ := findFrom_eq_ok_iff.mp hfound
    exact findFrom_eq_ok_iff.mpr ⟨hadmits, at?_setDefaultFrom hdiverge hat⟩

/-- The accessories of a third car make the car, at the end of the list. -/
theorem setDefault_stores_twoCars :
    ∃ change, Samples.fleet.setDefault twoCars "cars.2.accessories" = change ∧
      change.failure? = none ∧
      Samples.fleet.find change.document "cars.2.accessories" = .ok .emptyMap ∧
      Samples.fleet.setDefault change.document "cars.2.accessories" = ⟨change.document, none⟩ ∧
      twoCars.Diverge (Path.segments "cars.2.accessories") (Path.segments "cars.1.color") ∧
      Samples.fleet.find change.document "cars.1.color" = .ok (.str "blue") := by
  have hsteps : Path.segments "cars.2.accessories" = ["cars", "2", "accessories"] := by decide
  have hdiverge :
      twoCars.Diverge (Path.segments "cars.2.accessories") (Path.segments "cars.1.color") := by
    show twoCars.Diverge ["cars", "2", "accessories"] ["cars", "1", "color"]
    refine .step rfl (.here ?_ _ _)
    show Path.index? "2" ≠ Path.index? "1"
    decide
  have hok : (Samples.fleet.setDefault twoCars "cars.2.accessories").failure? = none := by
    rw [setDefault, hsteps]
    rfl
  obtain ⟨⟨target, default, hlookup, hdefault, hfind⟩, hagain, hothers⟩ := setDefault_stores hok
  obtain rfl : default = .emptyMap := by
    rw [lookup, hsteps] at hlookup
    obtain rfl := Except.ok.inj hlookup
    exact (Except.ok.inj hdefault).symm
  exact ⟨_, rfl, hok, hfind, hagain, hdiverge, hothers "cars.1.color" _ hdiverge rfl⟩

/-! ## A default that could not be put into a document -/

/-- A document and what it becomes where containers are made along steps: a null becomes the empty
container that its element describes, and what is missing at the next step is added. All else stays
as it is. -/
inductive Opened : Element → (steps : List String) → (before after : Value) → Prop
  | refl (element : Element) (steps : List String) (value : Value) :
      Opened element steps value value
  | mapping {element : Element} {steps : List String} {after : Value} (hkind : element.holdsFields)
      (h : Opened element steps .emptyMap after) : Opened element steps .null after
  | list {element : Element} {steps : List String} {after : Value} (hkind : element.isList)
      (h : Opened element steps (.seq []) after) : Opened element steps .null after
  | step {element child : Element} {step : String} {rest : List String}
      {before inner after : Value} (hchild : element.child? step = some child)
      (h : Opened child rest ((before.child? step).getD .null) inner)
      (hput : before.withChild? step inner = some after) :
      Opened element (step :: rest) before after

/-- The container that is made of a value opens it. -/
theorem Opened.of_container {element : Element} {value container after : Value}
    {steps : List String} (hcontainer : element.container path value = .ok container)
    (h : Opened element steps container after) : Opened element steps value after := by
  rcases container_eq_ok hcontainer with ⟨-, rfl⟩ | ⟨rfl, ⟨hkind, rfl⟩ | ⟨hkind, rfl⟩⟩
  · exact h
  · exact .mapping hkind h
  · exact .list hkind h

/-- Where the default of the last element is not to be had, nothing changes. -/
theorem document_of_setDefaultFrom_nil {element : Element} {value : Value} {failure : Failure}
    (h : (element.setDefaultFrom path value []).failure? = some failure) :
    (element.setDefaultFrom path value []).document = value := by
  rw [setDefaultFrom] at h ⊢
  cases hdefault : element.defaultAt path with
  | error failure => rfl
  | ok default =>
    rw [hdefault] at h
    cases h

/-- If the last step can be taken, the default is put. So where putting it fails below a step, there
are further steps. -/
theorem ne_nil_of_provides {child : Element} {inside : Value} {rest : List String}
    {failure : Failure} (hprovides : rest = [] → child.Provides path)
    (h : (child.setDefaultFrom path inside rest).failure? = some failure) : rest ≠ [] := by
  rintro rfl
  obtain ⟨-, default, hdefault⟩ := hprovides rfl
  rw [setDefaultFrom, hdefault] at h
  cases h

/-- Where a default could not be put, the document has been opened along the steps to the place at
most. -/
theorem opened_of_setDefaultFrom {element : Element} {value : Value} {steps : List String}
    {failure : Failure} (h : (element.setDefaultFrom path value steps).failure? = some failure) :
    Opened element steps.dropLast value (element.setDefaultFrom path value steps).document := by
  induction steps generalizing element value path with
  | nil =>
    rw [document_of_setDefaultFrom_nil h]
    exact .refl _ _ _
  | cons step rest ih =>
    rcases element.setDefaultFrom_cons path value step rest with
      ⟨after, failure, rfl | hafter, hfails⟩ |
        ⟨child, container, inner, hchild, hprovides, hmade, rfl, hput, hfailure⟩
    · rw [hfails]
      exact .refl _ _ _
    · rw [hfails]
      exact .of_container hafter (.refl _ _ _)
    · rw [hfailure] at h
      rw [List.dropLast_cons_of_ne_nil (ne_nil_of_provides hprovides h)]
      exact .of_container hmade (.step hchild (ih h) hput)

/-- Where the container of the place is there already, nothing has changed. -/
theorem setDefaultFrom_of_parent {element : Element} {value parent : Value} {steps : List String}
    {failure : Failure} (h : (element.setDefaultFrom path value steps).failure? = some failure)
    (hparent : value.at? steps.dropLast = some parent) (hnull : parent.isNull = false) :
    (element.setDefaultFrom path value steps).document = value := by
  induction steps generalizing element value path with
  | nil => exact document_of_setDefaultFrom_nil h
  | cons step rest ih =>
    have hvalue := Value.isNull_of_at? hparent hnull
    rcases element.setDefaultFrom_cons path value step rest with
      ⟨after, failure, hafter, hfails⟩ |
        ⟨child, container, inner, hchild, hprovides, hmade, rfl, hput, hfailure⟩
    · rw [hfails]
      exact hafter.elim id (eq_of_container hvalue)
    · obtain rfl := eq_of_container hvalue hmade
      rw [hfailure] at h
      rw [List.dropLast_cons_of_ne_nil (ne_nil_of_provides hprovides h), Value.at?_cons] at hparent
      obtain ⟨inside, hinside, hrest⟩ := Option.bind_eq_some_iff.mp hparent
      rw [hinside, Option.getD_some] at h hput
      rw [ih h hrest, Value.withChild?_eq_putBelow hinside, Value.putBelow_self hinside] at hput
      exact (Option.some.inj hput).symm

/-- Where a default could not be put into a document, the document has been opened at most along the
steps to the place. It is as before if the path is empty, or if the container of the place was there
and not null. -/
theorem opened_of_setDefault {schema : Element} {document : Value} {dotted : String}
    {failure : Failure} (h : (schema.setDefault document dotted).failure? = some failure) :
    Opened schema (Path.segments dotted).dropLast document
        (schema.setDefault document dotted).document ∧
      (Path.segments dotted = [] ∨ (∃ parent,
          document.at? (Path.segments dotted).dropLast = some parent ∧ parent.isNull = false) →
        (schema.setDefault document dotted).document = document) := by
  refine ⟨opened_of_setDefaultFrom h, ?_⟩
  rintro (hroot | ⟨parent, hparent, hnull⟩)
  · rw [setDefault, hroot] at h ⊢
    exact document_of_setDefaultFrom_nil h
  · exact setDefaultFrom_of_parent h hparent hnull

/-- A garage about which nothing is said. -/
def northGarage : Value := .map ⟨[("garages", .map ⟨[("north", .emptyMap)]⟩)]⟩

/-- Garages have no height. A garage that was missing is made on the way to it, and one that is
there stays as it is. -/
theorem opened_of_setDefault_northGarage :
    (Samples.fleet.setDefault .emptyMap "garages.north.height").failure? =
        some (.unresolved "garages.north.height" (.undeclared "mapping")) ∧
      Opened Samples.fleet ["garages", "north"] .emptyMap
        (Samples.fleet.setDefault .emptyMap "garages.north.height").document ∧
      (Samples.fleet.setDefault northGarage "garages.north.height").failure? =
        some (.unresolved "garages.north.height" (.undeclared "mapping")) ∧
      (Samples.fleet.setDefault northGarage "garages.north.height").document = northGarage := by
  have hsteps : Path.segments "garages.north.height" = ["garages", "north", "height"] := by decide
  have hmissing : (Samples.fleet.setDefault .emptyMap "garages.north.height").failure? =
      some (.unresolved "garages.north.height" (.undeclared "mapping")) := by
    rw [setDefault, hsteps]
    rfl
  have hthere : (Samples.fleet.setDefault northGarage "garages.north.height").failure? =
      some (.unresolved "garages.north.height" (.undeclared "mapping")) := by
    rw [setDefault, hsteps]
    rfl
  have hopened := (opened_of_setDefault hmissing).1
  rw [hsteps] at hopened
  have hparent : northGarage.at? (Path.segments "garages.north.height").dropLast =
      some .emptyMap := by
    rw [hsteps]
    rfl
  exact ⟨hmissing, hopened, hthere, (opened_of_setDefault hthere).2 (.inr ⟨_, hparent, rfl⟩)⟩

/-- What has been made on the way stays when the last step fails. -/
theorem setDefault_leaves_garage :
    Samples.fleet.check = .ok () ∧
      Samples.fleet.setDefault .emptyMap "garages.north.height" =
        ⟨.map ⟨[("garages", .map ⟨[("north", .null)]⟩)]⟩,
          some (.unresolved "garages.north.height" (.undeclared "mapping"))⟩ ∧
      (Samples.fleet.setDefault .emptyMap "garages.north.height").document ≠ .emptyMap := by
  have hsteps : Path.segments "garages.north.height" = ["garages", "north", "height"] := by decide
  rw [setDefault, hsteps]
  refine ⟨rfl, rfl, fun h => ?_⟩
  have hsize := congrArg (fun value => (value.get? "garages").isSome) h
  exact absurd hsize (by decide)

end Element

end ConfigSchema
