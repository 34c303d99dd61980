import ConfigSchema.Proofs.Event.WellNested
import ConfigSchema.Proofs.Value.Subvalue
import ConfigSchema.Value.Events

/-!
# The value of a stream

A well-nested stream denotes a value exactly as its tree shows it, as long as no mapping in it has
a key twice. So what is left to ask of a stream that can be written, for it to be read as a value,
is that its keys are distinct. Of the keys nothing else is asked to read a stream: they are taken by
their text, whether this fits their type or not.

## Main definitions

- `StreamNode.value` — the value of a node, by recursion on the node
- `StreamNode.Readable`, `StreamEntries.Readable`, `StreamItems.Readable` — what has a value: the
  scalars in it fit, collections end like their own kind, and mappings have distinct keys
- `StreamNode.Sound`, `StreamEntries.Sound`, `StreamItems.Sound` — what can be written, ends like
  its own kind, and has distinct keys

## Main statements

- `StreamNode.readable_of_sound` — what can be written with distinct keys has a value
- `StreamNode.takeNode_events` — a readable node is taken as its value
-/

namespace ConfigSchema

open Value (takeNode takeFields takeItems dropComments ofScalar?)

/-! ## Values of nodes -/

/-- The value of a scalar, which is null if the text does not fit. -/
def scalarValue (text : String) (tag : ScalarTag) : Value :=
  (ofScalar? text tag).toOption.getD .null

mutual

/-- The value of a node. -/
def StreamNode.value : StreamNode → Value
  | .scalar text tag => scalarValue text tag
  | .mapping entries _ => .map ⟨entries.fields⟩
  | .sequence items _ => .seq items.values

/-- The fields that entries give. -/
def StreamEntries.fields : StreamEntries → List (String × Value)
  | .done => []
  | .comment _ rest => rest.fields
  | .entry key _ _ value rest => (key, value.value) :: rest.fields

/-- The values of items. -/
def StreamItems.values : StreamItems → List Value
  | .done => []
  | .comment _ rest => rest.values
  | .item value rest => value.value :: rest.values

end

theorem ofScalar?_of_accepts {text : String} {tag : ScalarTag} (h : tag.Accepts text) :
    ofScalar? text tag = .ok (scalarValue text tag) := by
  have hok : ∃ value, ofScalar? text tag = .ok value := by
    cases tag with
    | null => exact ⟨_, rfl⟩
    | str => exact ⟨_, rfl⟩
    | bool =>
      rcases h with rfl | rfl
      · exact ⟨.bool true, rfl⟩
      · exact ⟨.bool false, rfl⟩
    | int =>
      obtain ⟨number, hnumber⟩ := Option.isSome_iff_exists.mp h
      exact ⟨.int number, by rw [ofScalar?, hnumber]; rfl⟩
    | float =>
      obtain ⟨number, hnumber⟩ := Option.isSome_iff_exists.mp h
      exact ⟨.float number, by rw [ofScalar?, hnumber]; rfl⟩
  obtain ⟨value, hvalue⟩ := hok
  rw [scalarValue, hvalue]
  rfl

/-! ## What has a value -/

mutual

/-- The node has a value: the texts of its scalars fit, each collection in it ends like its own
kind, and each mapping in it has distinct keys. -/
def StreamNode.Readable : StreamNode → Prop
  | .scalar text tag => tag.Accepts text
  | .mapping entries crossed =>
      crossed = false ∧ (entries.fields.map Prod.fst).Nodup ∧ entries.Readable
  | .sequence items crossed => crossed = false ∧ items.Readable

/-- The values of the entries are readable. Whether the keys are distinct is left to the
mapping. -/
def StreamEntries.Readable : StreamEntries → Prop
  | .done => True
  | .comment _ rest => rest.Readable
  | .entry _ _ _ value rest => value.Readable ∧ rest.Readable

/-- The items are readable. -/
def StreamItems.Readable : StreamItems → Prop
  | .done => True
  | .comment _ rest => rest.Readable
  | .item value rest => value.Readable ∧ rest.Readable

end

/-- The node can be written, each collection in it ends like its own kind, and each mapping in it
has distinct keys. -/
structure StreamNode.Sound (node : StreamNode) : Prop where
  valid : node.Valid
  straight : node.Straight
  proper : node.value.Proper

/-- The values of the entries are sound. Whether the keys are distinct is left to the mapping. -/
structure StreamEntries.Sound (entries : StreamEntries) : Prop where
  valid : entries.Valid
  straight : entries.Straight
  proper : ∀ field ∈ entries.fields, field.2.Proper

structure StreamItems.Sound (items : StreamItems) : Prop where
  valid : items.Valid
  straight : items.Straight
  proper : ∀ value ∈ items.values, value.Proper

mutual

/-- What can be written with distinct keys has a value. -/
theorem StreamNode.readable_of_sound (node : StreamNode) (h : node.Sound) : node.Readable := by
  match node with
  | .scalar text tag => exact h.valid
  | .mapping entries crossed =>
    exact ⟨h.straight.1, h.proper.self, entries.readable_of_sound
      ⟨h.valid.1, h.straight.2, fun _ hfield => h.proper.of_field hfield⟩⟩
  | .sequence items crossed =>
    exact ⟨h.straight.1, items.readable_of_sound
      ⟨h.valid.1, h.straight.2, fun _ hvalue => h.proper.of_item hvalue⟩⟩

theorem StreamEntries.readable_of_sound (entries : StreamEntries) (h : entries.Sound) :
    entries.Readable := by
  match entries with
  | .done => trivial
  | .comment text more => exact more.readable_of_sound ⟨h.valid, h.straight, h.proper⟩
  | .entry key tag comments value more =>
    exact ⟨value.readable_of_sound ⟨h.valid.2.1, h.straight.1, h.proper _ List.mem_cons_self⟩,
      more.readable_of_sound ⟨h.valid.2.2, h.straight.2, fun field hfield =>
        h.proper field (List.mem_cons_of_mem _ hfield)⟩⟩

theorem StreamItems.readable_of_sound (items : StreamItems) (h : items.Sound) :
    items.Readable := by
  match items with
  | .done => trivial
  | .comment text more => exact more.readable_of_sound ⟨h.valid, h.straight, h.proper⟩
  | .item value more =>
    exact ⟨value.readable_of_sound ⟨h.valid.1, h.straight.1, h.proper _ List.mem_cons_self⟩,
      more.readable_of_sound ⟨h.valid.2, h.straight.2, fun value hvalue =>
        h.proper value (List.mem_cons_of_mem _ hvalue)⟩⟩

end

/-! ## Steps of taking -/

/-- The event of a scalar is taken as what the scalar denotes. -/
theorem Value.takeNode_scalar {fuel : Nat} (hfuel : 0 < fuel) {text : String} {tag : ScalarTag}
    {value : Value} (h : ofScalar? text tag = .ok value) (rest : List Event) :
    takeNode fuel (.scalar text tag :: rest) = .ok (value, rest) := by
  obtain ⟨fuel, rfl⟩ := Nat.exists_eq_add_one_of_ne_zero (by omega : fuel ≠ 0)
  rw [takeNode]
  simp [dropComments, Event.isComment, h, pure, Except.pure]

/-- Items that are not at their end go on with a node. -/
theorem Value.takeItems_succ {events : List Event}
    (h : ∀ rest, dropComments events ≠ .sequenceEnd :: rest) (fuel : Nat) :
    takeItems (fuel + 1) events = (do
      let (item, rest) ← takeNode fuel (dropComments events)
      let (items, rest) ← takeItems fuel rest
      return (item :: items, rest)) := by
  rw [takeItems]
  split
  · rename_i rest hend
    exact absurd hend (h rest)
  · rfl

theorem dropComments_commentEvents (texts : List String) (events : List Event) :
    dropComments (commentEvents texts ++ events) = dropComments events := by
  induction texts with
  | nil => rfl
  | cons text texts ih => exact ih

theorem takeNode_commentEvents (fuel : Nat) (texts : List String) (events : List Event) :
    takeNode fuel (commentEvents texts ++ events) = takeNode fuel events := by
  cases fuel with
  | zero => rfl
  | succ fuel => rw [takeNode, takeNode, dropComments_commentEvents]

theorem takeFields_comment (fuel : Nat) (fields : OrderedMap Value) (text : String)
    (events : List Event) :
    takeFields fuel fields (.comment text :: events) = takeFields fuel fields events := by
  cases fuel with
  | zero => rfl
  | succ fuel => rfl

theorem takeItems_comment (fuel : Nat) (text : String) (events : List Event) :
    takeItems fuel (.comment text :: events) = takeItems fuel events := by
  cases fuel with
  | zero => rfl
  | succ fuel => rfl

theorem StreamNode.dropComments_events (node : StreamNode) (rest : List Event) :
    dropComments (node.events ++ rest) = node.events ++ rest := by
  obtain ⟨event, tail, hevents, hstart⟩ := node.events_eq_cons
  have hcomment := Event.not_comment_of_startsNode hstart
  simp [hevents, dropComments, hcomment]

theorem StreamNode.length_events_pos (node : StreamNode) : 0 < node.events.length := by
  obtain ⟨event, tail, hevents, -⟩ := node.events_eq_cons
  simp [hevents]

/-- A node is no end of items, so one more item is taken. -/
theorem StreamNode.takeItems_append (node : StreamNode) (fuel : Nat) (rest : List Event) :
    takeItems (fuel + 1) (node.events ++ rest) = (do
      let (item, rest) ← takeNode fuel (node.events ++ rest)
      let (items, rest) ← takeItems fuel rest
      return (item :: items, rest)) := by
  obtain ⟨event, tail, hevents, hstart⟩ := node.events_eq_cons
  have hgoesOn : ∀ others, dropComments (node.events ++ rest) ≠ .sequenceEnd :: others := by
    intro others hend
    rw [node.dropComments_events, hevents] at hend
    obtain ⟨rfl, -⟩ := List.cons.inj hend
    cases hstart
  rw [Value.takeItems_succ hgoesOn, node.dropComments_events]

/-! ## Readable nodes are taken -/

mutual

/-- A readable node is taken as its value. -/
theorem StreamNode.takeNode_events (node : StreamNode) (h : node.Readable) (fuel : Nat)
    (hfuel : node.events.length ≤ fuel) (rest : List Event) :
    takeNode fuel (node.events ++ rest) = .ok (node.value, rest) := by
  -- one unit of fuel goes to the first event of the node, and what is in it has fewer events
  match node with
  | .scalar text tag =>
    exact Value.takeNode_scalar hfuel (ofScalar?_of_accepts h) rest
  | .mapping entries crossed =>
    obtain ⟨rfl, hdistinct, hentries⟩ := h
    simp only [StreamNode.events, List.length_cons, List.length_append, List.cons_append] at hfuel
    obtain ⟨fuel, rfl⟩ := Nat.exists_eq_add_one_of_ne_zero (by omega : fuel ≠ 0)
    have hfields := entries.takeFields_events hentries fuel (by omega) .empty hdistinct
      (by simp [OrderedMap.keys, OrderedMap.empty]) rest
    have hall : (OrderedMap.empty : OrderedMap Value).insertMany entries.fields =
        ⟨entries.fields⟩ := OrderedMap.ofList_of_nodup hdistinct
    rw [hall] at hfields
    rw [takeNode]
    simp [StreamNode.events, mappingEndOf_false, dropComments, Event.isComment, hfields,
      StreamNode.value, pure, Except.pure]
  | .sequence items crossed =>
    obtain ⟨rfl, hitems⟩ := h
    simp only [StreamNode.events, List.length_cons, List.length_append, List.cons_append] at hfuel
    obtain ⟨fuel, rfl⟩ := Nat.exists_eq_add_one_of_ne_zero (by omega : fuel ≠ 0)
    have hitems := items.takeItems_events hitems fuel (by omega) rest
    rw [takeNode]
    simp [StreamNode.events, sequenceEndOf_false, dropComments, Event.isComment, hitems,
      StreamNode.value, pure, Except.pure]

/-- Readable entries are taken one after the other if their keys are new and distinct. -/
theorem StreamEntries.takeFields_events (entries : StreamEntries) (h : entries.Readable)
    (fuel : Nat) (hfuel : entries.events.length < fuel) (fields : OrderedMap Value)
    (hdistinct : (entries.fields.map Prod.fst).Nodup)
    (hnew : ∀ key ∈ entries.fields.map Prod.fst, key ∉ fields.keys) (rest : List Event) :
    takeFields fuel fields (entries.events ++ .mappingEnd :: rest) =
      .ok (fields.insertMany entries.fields, rest) := by
  obtain ⟨fuel, rfl⟩ := Nat.exists_eq_add_one_of_ne_zero (by omega : fuel ≠ 0)
  match entries with
  | .done => rfl
  | .comment text more =>
    rw [StreamEntries.events, List.cons_append, takeFields_comment]
    exact more.takeFields_events h (fuel + 1)
      (Nat.lt_of_succ_lt hfuel) fields hdistinct hnew rest
  | .entry key tag comments value more =>
    simp only [StreamEntries.events, List.length_cons, List.length_append,
      List.cons_append] at hfuel
    obtain ⟨hkey, hothers⟩ := List.nodup_cons.mp hdistinct
    have habsent : fields.contains key = false :=
      (fields.contains_eq_false_iff key).mpr (hnew key List.mem_cons_self)
    -- the key has been added, and those that follow differ from it
    have hnew' : ∀ other ∈ more.fields.map Prod.fst,
        other ∉ (fields.insert key value.value).keys := by
      intro other hother
      have hne : other ≠ key := fun heq => hkey (heq ▸ hother)
      rw [← OrderedMap.get?_eq_none_iff, OrderedMap.get?_insert, if_neg hne,
        OrderedMap.get?_eq_none_iff]
      exact hnew other (List.mem_cons_of_mem _ hother)
    have hvalue := value.takeNode_events h.1 fuel (by omega)
      (more.events ++ .mappingEnd :: rest)
    have hmore := more.takeFields_events h.2 fuel (by omega) (fields.insert key value.value)
      hothers hnew' rest
    rw [takeFields]
    simp only [StreamEntries.events, List.cons_append, List.append_assoc, dropComments,
      List.dropWhile_cons, Event.isComment, Bool.false_eq_true, if_false, habsent,
      takeNode_commentEvents, hvalue, Outcome.ok_bind, hmore]
    rfl

theorem StreamItems.takeItems_events (items : StreamItems) (h : items.Readable) (fuel : Nat)
    (hfuel : items.events.length < fuel) (rest : List Event) :
    takeItems fuel (items.events ++ .sequenceEnd :: rest) = .ok (items.values, rest) := by
  obtain ⟨fuel, rfl⟩ := Nat.exists_eq_add_one_of_ne_zero (by omega : fuel ≠ 0)
  match items with
  | .done => rfl
  | .comment text more =>
    rw [StreamItems.events, List.cons_append, takeItems_comment]
    exact more.takeItems_events h (fuel + 1)
      (Nat.lt_of_succ_lt hfuel) rest
  | .item value more =>
    have hpos := value.length_events_pos
    simp only [StreamItems.events, List.length_append] at hfuel
    have hvalue := value.takeNode_events h.1 fuel (by omega)
      (more.events ++ .sequenceEnd :: rest)
    have hmore := more.takeItems_events h.2 fuel (by omega) rest
    rw [StreamItems.events, List.append_assoc, value.takeItems_append, hvalue]
    simp [hmore, StreamItems.values, pure, Except.pure]

end

end ConfigSchema
