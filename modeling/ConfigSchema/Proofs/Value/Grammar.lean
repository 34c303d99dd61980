import ConfigSchema.Proofs.Value.Events

/-!
# The grammar of streams that denote values

A stream denotes a value exactly if it is a start, at most one readable node and an end, with
comments anywhere before the end. The value is that of the node, and null without one. The events of
any value are such a stream, which denotes this value.

## Main statements

- `Value.exists_of_takeNode` — only readable nodes are taken
- `Value.ofEvents?_eq_ok_iff` — the streams that denote a value
- `Value.ofEvents?_grammar` — these are all that are accepted, and the events of values among them
-/

namespace ConfigSchema.Value

/-- A scalar that has a value has a text that fits. -/
theorem accepts_of_ofScalar? {text : String} {tag : ScalarTag} {value : Value}
    (h : ofScalar? text tag = .ok value) : tag.Accepts text ∧ scalarValue text tag = value := by
  refine ⟨?_, by rw [scalarValue, h]; rfl⟩
  cases tag with
  | null | str => trivial
  | bool =>
    simp only [ofScalar?] at h
    split at h
    · rename_i htrue
      exact .inl (by simpa using htrue)
    · split at h
      · rename_i hfalse
        exact .inr (by simpa using hfalse)
      · cases h
  | int =>
    simp only [ofScalar?] at h
    cases hread : readInt64? text with
    | none =>
      rw [hread] at h
      cases h
    | some number => exact Option.isSome_iff_exists.mpr ⟨number, hread⟩
  | float =>
    simp only [ofScalar?] at h
    cases hread : readFloat? text with
    | none =>
      rw [hread] at h
      cases h
    | some number => exact Option.isSome_iff_exists.mpr ⟨number, hread⟩

/-! ## What is taken is in the grammar -/

mutual

/-- But for comments, what is taken as a value is a readable node that has this value. -/
theorem exists_of_takeNode {fuel : Nat} {events : List Event} {taken : Taken Value}
    (h : takeNode fuel events = .ok taken) :
    ∃ node : StreamNode, node.Readable ∧ node.value = taken.1 ∧
      withoutComments events = node.events ++ withoutComments taken.2 := by
  match fuel with
  | 0 => cases h
  | fuel + 1 =>
    rw [← withoutComments_dropComments events]
    rw [takeNode] at h
    split at h
    · cases h
    · rename_i text tag rest hevents
      obtain ⟨value, hvalue, hok⟩ := Outcome.bind_eq_ok.mp h
      obtain ⟨haccepts, rfl⟩ := accepts_of_ofScalar? hvalue
      rw [hevents, ← Outcome.pure_eq_ok.mp hok, withoutComments_cons rfl]
      exact ⟨.scalar text tag, haccepts, rfl, rfl⟩
    · rename_i rest hevents
      obtain ⟨inner, hinner, hok⟩ := Outcome.bind_eq_ok.mp h
      obtain ⟨entries, hentries, hdistinct, -, hfields, hrest⟩ := exists_of_takeFields hinner
      rw [hevents, ← Outcome.pure_eq_ok.mp hok, withoutComments_cons rfl, hrest]
      refine ⟨.mapping entries false, ⟨rfl, hdistinct, hentries⟩, ?_, ?_⟩
      · rw [StreamNode.value, hfields]
        rfl
      · simp [StreamNode.events, mappingEndOf_false]
    · rename_i rest hevents
      obtain ⟨inner, hinner, hok⟩ := Outcome.bind_eq_ok.mp h
      obtain ⟨items, hitems, hvalues, hrest⟩ := exists_of_takeItems hinner
      rw [hevents, ← Outcome.pure_eq_ok.mp hok, withoutComments_cons rfl, hrest]
      refine ⟨.sequence items false, ⟨rfl, hitems⟩, ?_, ?_⟩
      · rw [StreamNode.value, hvalues]
      · simp [StreamNode.events, sequenceEndOf_false]
    · cases h

/-- But for comments, what is taken as fields are readable entries with keys that are new and
distinct. -/
theorem exists_of_takeFields {fuel : Nat} {fields : OrderedMap Value} {events : List Event}
    {taken : Taken (OrderedMap Value)} (h : takeFields fuel fields events = .ok taken) :
    ∃ entries : StreamEntries, entries.Readable ∧ (entries.fields.map Prod.fst).Nodup ∧
      (∀ key ∈ entries.fields.map Prod.fst, key ∉ fields.keys) ∧
      taken.1 = ⟨fields.entries ++ entries.fields⟩ ∧
      withoutComments events = entries.events ++ .mappingEnd :: withoutComments taken.2 := by
  match fuel with
  | 0 => cases h
  | fuel + 1 =>
    rw [← withoutComments_dropComments events]
    rw [takeFields] at h
    split at h
    · cases h
    · rename_i rest hevents
      rw [hevents, ← Except.ok.inj h, withoutComments_cons rfl]
      exact ⟨.done, trivial, List.nodup_nil, by simp [StreamEntries.fields],
        by simp [StreamEntries.fields], rfl⟩
    · rename_i key tag rest hevents
      split at h
      · cases h
      · rename_i habsent
        have hkey : key ∉ fields.keys := mt (fields.contains_iff key).mpr habsent
        obtain ⟨inner, hinner, hmore⟩ := Outcome.bind_eq_ok.mp h
        obtain ⟨node, hnode, hvalue, hnodeEvents⟩ := exists_of_takeNode hinner
        obtain ⟨more, hreadable, hdistinct, hnew, hfields, hmoreEvents⟩ :=
          exists_of_takeFields hmore
        -- the keys that follow differ from those before and from this one
        rw [OrderedMap.keys_insert_of_not_mem hkey] at hnew
        rw [OrderedMap.insert_of_not_mem hkey] at hfields
        rw [hevents, withoutComments_cons rfl, hnodeEvents, hmoreEvents]
        refine ⟨.entry key tag [] node more, ⟨hnode, hreadable⟩, ?_, ?_, ?_, ?_⟩
        · exact List.nodup_cons.mpr ⟨fun hmem => hnew key hmem (by simp), hdistinct⟩
        · intro other hother
          rcases List.mem_cons.mp hother with rfl | hmem
          · exact hkey
          · exact fun hin => hnew other hmem (List.mem_append_left _ hin)
        · rw [hfields, StreamEntries.fields, hvalue]
          simp
        · simp [StreamEntries.events, commentEvents]
    · cases h

/-- But for comments, what is taken as items are readable items. -/
theorem exists_of_takeItems {fuel : Nat} {events : List Event} {taken : Taken (List Value)}
    (h : takeItems fuel events = .ok taken) :
    ∃ items : StreamItems, items.Readable ∧ items.values = taken.1 ∧
      withoutComments events = items.events ++ .sequenceEnd :: withoutComments taken.2 := by
  match fuel with
  | 0 => cases h
  | fuel + 1 =>
    rw [← withoutComments_dropComments events]
    rw [takeItems] at h
    split at h
    · rename_i rest hevents
      rw [hevents, ← Except.ok.inj h, withoutComments_cons rfl]
      exact ⟨.done, trivial, rfl, rfl⟩
    · obtain ⟨item, hitem, hrest⟩ := Outcome.bind_eq_ok.mp h
      obtain ⟨inner, hinner, hok⟩ := Outcome.bind_eq_ok.mp hrest
      obtain ⟨node, hnode, hvalue, hnodeEvents⟩ := exists_of_takeNode hitem
      obtain ⟨more, hmore, hvalues, hmoreEvents⟩ := exists_of_takeItems hinner
      rw [hnodeEvents, hmoreEvents, ← Outcome.pure_eq_ok.mp hok]
      refine ⟨.item node more, ⟨hnode, hmore⟩, ?_, ?_⟩
      · rw [StreamItems.values, hvalue, hvalues]
      · simp [StreamItems.events]

end

/-! ## Streams -/

/-- A stream without a node denotes null, whatever comments stand before its end. -/
theorem ofEvents?_of_none {before : List Event} (h : withoutComments before = [.streamStart]) :
    ofEvents? (before ++ [.streamEnd]) = .ok .null := by
  have hall : withoutComments (before ++ [.streamEnd]) = .streamStart :: [.streamEnd] := by
    rw [withoutComments_append, h]
    rfl
  obtain ⟨rest, hstart, hrest⟩ := dropComments_eq_cons hall
  obtain ⟨last, hlast, hempty⟩ := dropComments_eq_cons hrest
  have hsuffix : (Event.streamEnd :: last) <:+ before ++ [.streamEnd] :=
    (hlast ▸ dropComments_suffix rest).trans
      ((List.suffix_cons _ rest).trans (hstart ▸ dropComments_suffix _))
  rw [eq_nil_of_suffix hsuffix hempty] at hlast
  rw [ofEvents?, hstart]
  dsimp only
  rw [hlast]
  rfl

/-- A stream that denotes a value has a start and, after at most one node, an end and nothing
else. -/
theorem exists_of_ofEvents? {events : List Event} {value : Value}
    (h : ofEvents? events = .ok value) :
    ∃ rest left, dropComments events = .streamStart :: rest ∧ left <:+ rest ∧
      dropComments left = [.streamEnd] ∧
      (left = dropComments rest ∧ value = .null ∨
        ∃ fuel, takeNode fuel (dropComments rest) = .ok (value, left)) := by
  rw [ofEvents?] at h
  split at h
  · rename_i rest hstart
    dsimp only at h
    split at h
    · obtain ⟨taken, hnull, h⟩ := Outcome.bind_eq_ok.mp h
      obtain rfl := Outcome.pure_eq_ok.mp hnull
      split at h
      · rename_i hend
        exact ⟨rest, _, hstart, dropComments_suffix rest, hend,
          .inl ⟨rfl, (Outcome.pure_eq_ok.mp h).symm⟩⟩
      · cases h
    · obtain ⟨taken, htake, h⟩ := Outcome.bind_eq_ok.mp h
      split at h
      · rename_i hend
        obtain rfl := Outcome.pure_eq_ok.mp h
        exact ⟨rest, taken.2, hstart, (takeNode_suffix htake).trans (dropComments_suffix rest),
          hend, .inr ⟨_, htake⟩⟩
      · cases h
  · cases h

/-- A stream denotes a value exactly if it is a start, at most one readable node and an end, but for
comments before the end. The value is that of the node, and null without one. -/
theorem ofEvents?_eq_ok_iff {events : List Event} {value : Value} :
    ofEvents? events = .ok value ↔ ∃ before, events = before ++ [.streamEnd] ∧
      (withoutComments before = [.streamStart] ∧ value = .null ∨
        ∃ node : StreamNode, node.Readable ∧
          withoutComments before = .streamStart :: node.events ∧ value = node.value) := by
  constructor
  · intro h
    obtain ⟨rest, left, hstart, hleft, hend, hvalue⟩ := exists_of_ofEvents? h
    have hlast : withoutComments left = [.streamEnd] := by
      rw [← withoutComments_dropComments, hend]
      rfl
    -- nothing comes after the end of the stream, so what comes before it is told by the rest
    obtain ⟨before, rfl⟩ : [Event.streamEnd] <:+ events :=
      (hend ▸ dropComments_suffix left).trans
        (hleft.trans ((List.suffix_cons _ rest).trans (hstart ▸ dropComments_suffix events)))
    have hkept : withoutComments before ++ [.streamEnd] =
        .streamStart :: withoutComments (dropComments rest) := by
      rw [withoutComments_dropComments, ← withoutComments_cons rfl, ← hstart,
        withoutComments_dropComments, withoutComments_append]
      rfl
    refine ⟨before, rfl, ?_⟩
    rcases hvalue with ⟨rfl, rfl⟩ | ⟨fuel, htake⟩
    · rw [hlast] at hkept
      exact .inl ⟨List.append_cancel_right hkept, rfl⟩
    · obtain ⟨node, hnode, hvalue, hevents⟩ := exists_of_takeNode htake
      rw [hevents, hlast] at hkept
      exact .inr ⟨node, hnode, List.append_cancel_right hkept, hvalue.symm⟩
  · rintro ⟨before, rfl, ⟨hbefore, rfl⟩ | ⟨node, hnode, hbefore, rfl⟩⟩
    · exact ofEvents?_of_none hbefore
    · have hplain : withoutComments node.events = node.events := by
        have htwice : withoutComments (withoutComments before) = withoutComments before := by
          simp [withoutComments]
        rw [hbefore, withoutComments_cons rfl] at htwice
        exact (List.cons.inj htwice).2
      have hlength : node.events.length ≤ before.length := by
        have hle : (withoutComments before).length ≤ before.length := List.length_filter_le ..
        rw [hbefore, List.length_cons] at hle
        omega
      exact ofEvents?_of_node hnode hlength (by rw [hplain, hbefore])

/-- Keys are the same if their texts are, whatever their types. -/
example : ofEvents? [.streamStart, .mappingStart, .str "1", .null, .scalar "1" .int, .null,
    .mappingEnd, .streamEnd] = .error (.duplicateKey "1") := rfl

/-- The streams that denote a value are those of the grammar. Among them are the events of every
value, with any comments between them, and they denote this value. -/
theorem ofEvents?_grammar :
    (∀ events value, ofEvents? events = .ok value ↔
      ∃ before, events = before ++ [.streamEnd] ∧
        (withoutComments before = [.streamStart] ∧ value = .null ∨
          ∃ node : StreamNode, node.Readable ∧
            withoutComments before = .streamStart :: node.events ∧ value = node.value)) ∧
      ∀ value : Value, value.Proper → ∀ inner, withoutComments inner = value.events →
        ofEvents? (.streamStart :: inner ++ [.streamEnd]) = .ok value :=
  ⟨fun _ _ => ofEvents?_eq_ok_iff, fun _ hproper _ hinner =>
    ofEvents?_of_withoutComments hproper hinner⟩

/-- A value with a collection of each kind. -/
def remarked : Value := .map ⟨[("a", .seq [.int 1, .null]), ("b", .emptyMap)]⟩

/-- The events of the value, with a comment in every place where one can be. -/
def remarkedEvents : List Event := [
  .comment "one", .mappingStart,
  .comment "two", .str "a", .comment "three", .sequenceStart,
  .comment "four", .scalar "1" .int, .comment "five", .null,
  .comment "six", .sequenceEnd,
  .comment "seven", .str "b", .comment "eight", .mappingStart, .comment "nine", .mappingEnd,
  .comment "ten", .mappingEnd, .comment "eleven"]

theorem ofEvents?_remarkedEvents :
    ofEvents? (.streamStart :: remarkedEvents ++ [.streamEnd]) = .ok remarked ∧
      ∃ node : StreamNode, node.Readable ∧
        withoutComments remarkedEvents = node.events ∧ remarked = node.value := by
  have hproper : remarked.Proper := by
    simp [remarked, emptyMap, Proper.of_scalar, OrderedMap.Distinct, OrderedMap.keys,
      OrderedMap.empty]
  have hvalue := ofEvents?_grammar.2 remarked hproper remarkedEvents rfl
  obtain ⟨before, hbefore, hcases⟩ := (ofEvents?_grammar.1 _ _).mp hvalue
  obtain rfl := List.append_cancel_right hbefore
  rcases hcases with ⟨-, hnull⟩ | ⟨node, hnode, hevents, hnodeValue⟩
  · cases hnull
  · rw [withoutComments_cons rfl] at hevents
    exact ⟨hvalue, node, hnode, (List.cons.inj hevents).2, hnodeValue⟩

end ConfigSchema.Value
