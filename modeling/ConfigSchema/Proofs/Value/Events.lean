import ConfigSchema.Proofs.Decimal.Integer
import ConfigSchema.Proofs.Event.Denotes
import ConfigSchema.Proofs.Float.ReadBack

/-!
# Values from events

The events of a value denote this value, whatever comments stand between them. They are those of a
node that has this value, and what a node denotes is known.

## Main definitions

- `withoutComments` — events without the comments among them
- `Value.node` — the node of a value in a stream

## Main statements

- `Value.takeNode_withoutComments` — comments have no part in what is taken
- `Value.value_node` — the node of a value has the value
- `Value.ofEvents?_of_node` — a stream around a readable node denotes the value of the node
- `Value.ofEvents?_of_withoutComments` — a stream around the events of a value denotes it
-/

namespace ConfigSchema

/-- The events that are no comments. -/
def withoutComments (events : List Event) : List Event := events.filter (!·.isComment)

@[simp] theorem withoutComments_nil : withoutComments [] = [] := rfl

@[simp] theorem withoutComments_append (as bs : List Event) :
    withoutComments (as ++ bs) = withoutComments as ++ withoutComments bs := List.filter_append ..

theorem withoutComments_cons {event : Event} (h : event.isComment = false) (rest : List Event) :
    withoutComments (event :: rest) = event :: withoutComments rest := by
  simp [withoutComments, h]

@[simp] theorem withoutComments_commentEvents (texts : List String) :
    withoutComments (commentEvents texts) = [] := by
  induction texts with
  | nil => rfl
  | cons text texts ih => exact ih

/-- The signs around a collection are no comments. -/
theorem withoutComments_enclosed {first last : Event} (hfirst : first.isComment = false)
    (hlast : last.isComment = false) (events : List Event) :
    withoutComments (first :: events ++ [last]) = first :: withoutComments events ++ [last] := by
  rw [List.cons_append, withoutComments_cons hfirst, withoutComments_append,
    withoutComments_cons hlast]
  rfl

theorem withoutComments_flatMap {α : Type} (as : List α) (f : α → List Event) :
    withoutComments (as.flatMap f) = as.flatMap fun a => withoutComments (f a) := by
  induction as with
  | nil => rfl
  | cons a as ih => simp [ih]

/-- After comments are dropped, the events are at their end or go on with no comment. -/
theorem dropComments_cases (events : List Event) :
    Value.dropComments events = [] ∨
      ∃ event rest, event.isComment = false ∧ Value.dropComments events = event :: rest := by
  cases h : Value.dropComments events with
  | nil => exact .inl rfl
  | cons event rest =>
    refine .inr ⟨event, rest, ?_, rfl⟩
    have hhead := List.head?_dropWhile_not Event.isComment events
    rw [show events.dropWhile Event.isComment = event :: rest from h] at hhead
    simpa using hhead

/-- Comments at the start are among those that are left out. -/
theorem withoutComments_dropComments (events : List Event) :
    withoutComments (Value.dropComments events) = withoutComments events := by
  induction events with
  | nil => rfl
  | cons event rest ih =>
    cases h : event.isComment with
    | true => simpa [Value.dropComments, withoutComments, h] using ih
    | false => simp [Value.dropComments, h]

/-- Where no comments are, none are dropped. -/
theorem dropComments_withoutComments (events : List Event) :
    Value.dropComments (withoutComments events) = withoutComments events := by
  induction events with
  | nil => rfl
  | cons event rest ih =>
    cases h : event.isComment with
    | true => simpa [withoutComments, h] using ih
    | false => simp [withoutComments_cons h, Value.dropComments, h]

theorem dropComments_suffix (events : List Event) : Value.dropComments events <:+ events :=
  List.dropWhile_suffix _

namespace Value

/-- What is taken, with the comments left out of the events after it. -/
def Taken.withoutComments {α : Type} (taken : Taken α) : Taken α :=
  (taken.1, ConfigSchema.withoutComments taken.2)

/-! ## Comments have no part in what is taken -/

mutual

theorem takeNode_withoutComments (fuel : Nat) (events : List Event) :
    takeNode fuel (withoutComments events) =
      (takeNode fuel events).map Taken.withoutComments := by
  match fuel with
  | 0 => rfl
  | fuel + 1 =>
    rw [takeNode, takeNode, dropComments_withoutComments, ← withoutComments_dropComments events]
    rcases dropComments_cases events with h | ⟨event, rest, hevent, h⟩
    · simp [h, Except.map]
    · rw [h, withoutComments_cons hevent]
      cases event with
      | scalar text tag =>
        dsimp only
        cases ofScalar? text tag <;> rfl
      | mappingStart =>
        dsimp only
        rw [takeFields_withoutComments fuel .empty rest]
        cases takeFields fuel .empty rest <;> rfl
      | sequenceStart =>
        dsimp only
        rw [takeItems_withoutComments fuel rest]
        cases takeItems fuel rest <;> rfl
      | _ => rfl

theorem takeFields_withoutComments (fuel : Nat) (fields : OrderedMap Value)
    (events : List Event) :
    takeFields fuel fields (withoutComments events) =
      (takeFields fuel fields events).map Taken.withoutComments := by
  match fuel with
  | 0 => rfl
  | fuel + 1 =>
    rw [takeFields, takeFields, dropComments_withoutComments,
      ← withoutComments_dropComments events]
    rcases dropComments_cases events with h | ⟨event, rest, hevent, h⟩
    · simp [h, Except.map]
    · rw [h, withoutComments_cons hevent]
      cases event with
      | scalar key tag =>
        dsimp only
        rw [takeNode_withoutComments fuel rest]
        split
        · rfl
        · cases takeNode fuel rest with
          | error fault => rfl
          | ok taken => exact takeFields_withoutComments fuel _ taken.2
      | _ => rfl

theorem takeItems_withoutComments (fuel : Nat) (events : List Event) :
    takeItems fuel (withoutComments events) =
      (takeItems fuel events).map Taken.withoutComments := by
  match fuel with
  | 0 => rfl
  | fuel + 1 =>
    by_cases hend : ∃ rest, dropComments events = .sequenceEnd :: rest
    · obtain ⟨rest, h⟩ := hend
      rw [takeItems, takeItems, dropComments_withoutComments, ← withoutComments_dropComments,
        h, withoutComments_cons rfl]
      rfl
    · have hne : ∀ rest, dropComments events ≠ .sequenceEnd :: rest :=
        fun rest h => hend ⟨rest, h⟩
      have hne' : ∀ rest, dropComments (withoutComments events) ≠ .sequenceEnd :: rest := by
        intro rest h
        rw [dropComments_withoutComments, ← withoutComments_dropComments] at h
        rcases dropComments_cases events with hd | ⟨event, tail, hevent, hd⟩
        · simp [hd] at h
        · rw [hd, withoutComments_cons hevent] at h
          obtain ⟨rfl, -⟩ := List.cons.inj h
          exact hne tail hd
      rw [takeItems_succ hne, takeItems_succ hne', dropComments_withoutComments,
        ← withoutComments_dropComments, takeNode_withoutComments fuel (dropComments events)]
      cases takeNode fuel (dropComments events) with
      | error fault => rfl
      | ok taken =>
        have hitems := takeItems_withoutComments fuel taken.2
        dsimp only [Except.map, Outcome.ok_bind, Taken.withoutComments]
        rw [hitems]
        cases takeItems fuel taken.2 <;> rfl

end

/-! ## Events of values -/

theorem fieldEvents_append (as bs : List (String × Value)) :
    fieldEvents (as ++ bs) = fieldEvents as ++ fieldEvents bs := by
  induction as with
  | nil => rfl
  | cons entry rest ih => simp [fieldEvents, ih]

theorem fieldEvents_eq_flatMap (entries : List (String × Value)) :
    fieldEvents entries = entries.flatMap fun entry => .str entry.1 :: entry.2.events := by
  induction entries with
  | nil => rfl
  | cons entry rest ih => simp [fieldEvents, ih]

theorem itemEvents_eq_flatMap (items : List Value) : itemEvents items = items.flatMap events := by
  induction items with
  | nil => rfl
  | cons item rest ih => simp [itemEvents, ih]

/-- The events of a value hold no comments. -/
theorem withoutComments_events (value : Value) : withoutComments value.events = value.events := by
  induction value using Value.induction with
  | seq items ih =>
    have hitems : withoutComments (itemEvents items) = itemEvents items := by
      rw [itemEvents_eq_flatMap, withoutComments_flatMap]
      exact List.flatMap_congr fun item hitem => ih item hitem
    rw [events, withoutComments_enclosed rfl rfl, hitems]
  | map entries ih =>
    have hfields : withoutComments (fieldEvents entries) = fieldEvents entries := by
      rw [fieldEvents_eq_flatMap, withoutComments_flatMap]
      refine List.flatMap_congr fun entry hentry => ?_
      rw [Event.str, withoutComments_cons rfl, ih entry hentry]
    rw [events, withoutComments_enclosed rfl rfl, hfields]
  | _ => rfl

theorem withoutComments_fieldEvents (entries : List (String × Value)) :
    withoutComments (fieldEvents entries) = fieldEvents entries := by
  rw [fieldEvents_eq_flatMap, withoutComments_flatMap]
  refine List.flatMap_congr fun entry hentry => ?_
  rw [Event.str, withoutComments_cons rfl, withoutComments_events]

/-! ## The node of a value -/

mutual

/-- The node of a value in a stream. -/
def node : Value → StreamNode
  | null => .scalar "" .null
  | bool flag => .scalar (boolText flag) .bool
  | int number => .scalar (toString number.toInt) .int
  | float number => .scalar (eventFloat.text number) .float
  | str text => .scalar text .str
  | seq items => .sequence (itemNodes items) false
  | map ⟨fields⟩ => .mapping (fieldNodes fields) false
termination_by structural value => value

/-- The nodes of items. -/
def itemNodes : List Value → StreamItems
  | [] => .done
  | item :: rest => .item item.node (itemNodes rest)
termination_by structural items => items

/-- The nodes of fields, under keys that are texts. -/
def fieldNodes : List (String × Value) → StreamEntries
  | [] => .done
  | (key, value) :: rest => .entry key .str [] value.node (fieldNodes rest)
termination_by structural fields => fields

end

mutual

/-- The node of a value has the events of the value. -/
theorem events_node (value : Value) : value.node.events = value.events := by
  match value with
  | null => rfl
  | bool flag => rfl
  | int number => rfl
  | float number => rfl
  | str text => rfl
  | seq items =>
    rw [node, StreamNode.events, events_itemNodes, sequenceEndOf_false, events]
  | map ⟨fields⟩ =>
    rw [node, StreamNode.events, events_fieldNodes, mappingEndOf_false, events]
termination_by structural value

theorem events_itemNodes (items : List Value) :
    (itemNodes items).events = itemEvents items := by
  match items with
  | [] => rfl
  | item :: rest => rw [itemNodes, StreamItems.events, events_node, events_itemNodes, itemEvents]
termination_by structural items

theorem events_fieldNodes (fields : List (String × Value)) :
    (fieldNodes fields).events = fieldEvents fields := by
  match fields with
  | [] => rfl
  | (key, value) :: rest =>
    rw [fieldNodes, StreamEntries.events, events_node, events_fieldNodes, fieldEvents]
    simp [commentEvents, Event.str]
termination_by structural fields

end

mutual

/-- The node of a value can be written. -/
theorem valid_node (value : Value) : value.node.Valid := by
  match value with
  | null => trivial
  | bool flag => cases flag <;> simp [node, StreamNode.Valid, ScalarTag.Accepts, boolText]
  | int number => exact Option.isSome_iff_exists.mpr ⟨number, readInt64?_toString number⟩
  | float number => exact Option.isSome_iff_exists.mpr ⟨number, readFloat?_text number⟩
  | str text => trivial
  | seq items => exact ⟨valid_itemNodes items, by simp⟩
  | map ⟨fields⟩ => exact ⟨valid_fieldNodes fields, by simp⟩
termination_by structural value

theorem valid_itemNodes (items : List Value) : (itemNodes items).Valid := by
  match items with
  | [] => trivial
  | item :: rest => exact ⟨valid_node item, valid_itemNodes rest⟩
termination_by structural items

theorem valid_fieldNodes (fields : List (String × Value)) : (fieldNodes fields).Valid := by
  match fields with
  | [] => trivial
  | (key, value) :: rest => exact ⟨trivial, valid_node value, valid_fieldNodes rest⟩
termination_by structural fields

end

mutual

/-- Each collection in the node of a value ends like its own kind. -/
theorem straight_node (value : Value) : value.node.Straight := by
  match value with
  | null | bool _ | int _ | float _ | str _ => trivial
  | seq items => exact ⟨rfl, straight_itemNodes items⟩
  | map ⟨fields⟩ => exact ⟨rfl, straight_fieldNodes fields⟩
termination_by structural value

theorem straight_itemNodes (items : List Value) : (itemNodes items).Straight := by
  match items with
  | [] => trivial
  | item :: rest => exact ⟨straight_node item, straight_itemNodes rest⟩
termination_by structural items

theorem straight_fieldNodes (fields : List (String × Value)) : (fieldNodes fields).Straight := by
  match fields with
  | [] => trivial
  | (_, value) :: rest => exact ⟨straight_node value, straight_fieldNodes rest⟩
termination_by structural fields

end

mutual

/-- The node of a value has the value. -/
theorem value_node (value : Value) : value.node.value = value := by
  match value with
  | null => rfl
  | bool flag => cases flag <;> rfl
  | int number =>
    rw [node, StreamNode.value, scalarValue, ofScalar?, readInt64?_toString]
    rfl
  | float number =>
    rw [node, StreamNode.value, scalarValue, ofScalar?, readFloat?_text]
    rfl
  | str text => rfl
  | seq items => rw [node, StreamNode.value, values_itemNodes]
  | map ⟨fields⟩ => rw [node, StreamNode.value, fields_fieldNodes]
termination_by structural value

theorem values_itemNodes (items : List Value) : (itemNodes items).values = items := by
  match items with
  | [] => rfl
  | item :: rest => rw [itemNodes, StreamItems.values, value_node, values_itemNodes]
termination_by structural items

theorem fields_fieldNodes (fields : List (String × Value)) :
    (fieldNodes fields).fields = fields := by
  match fields with
  | [] => rfl
  | (key, value) :: rest =>
    rw [fieldNodes, StreamEntries.fields, value_node, fields_fieldNodes]
termination_by structural fields

end

/-! ## What is left of the events -/

mutual

theorem takeNode_suffix {fuel : Nat} {events : List Event} {taken : Taken Value}
    (h : takeNode fuel events = .ok taken) : taken.2 <:+ events := by
  match fuel with
  | 0 => simp [takeNode] at h
  | fuel + 1 =>
    refine .trans ?_ (dropComments_suffix events)
    rw [takeNode] at h
    split at h
    · cases h
    · rename_i hevents
      obtain ⟨value, -, hok⟩ := Outcome.bind_eq_ok.mp h
      rw [hevents, ← Outcome.pure_eq_ok.mp hok]
      exact List.suffix_cons ..
    · rename_i hevents
      obtain ⟨inner, hinner, hok⟩ := Outcome.bind_eq_ok.mp h
      rw [hevents, ← Outcome.pure_eq_ok.mp hok]
      exact (takeFields_suffix hinner).trans (List.suffix_cons ..)
    · rename_i hevents
      obtain ⟨inner, hinner, hok⟩ := Outcome.bind_eq_ok.mp h
      rw [hevents, ← Outcome.pure_eq_ok.mp hok]
      exact (takeItems_suffix hinner).trans (List.suffix_cons ..)
    · cases h

theorem takeFields_suffix {fuel : Nat} {fields : OrderedMap Value} {events : List Event}
    {taken : Taken (OrderedMap Value)} (h : takeFields fuel fields events = .ok taken) :
    taken.2 <:+ events := by
  match fuel with
  | 0 => simp [takeFields] at h
  | fuel + 1 =>
    refine .trans ?_ (dropComments_suffix events)
    rw [takeFields] at h
    split at h
    · cases h
    · rename_i hevents
      rw [hevents, ← Except.ok.inj h]
      exact List.suffix_cons ..
    · rename_i hevents
      split at h
      · cases h
      · obtain ⟨inner, hinner, hrest⟩ := Outcome.bind_eq_ok.mp h
        rw [hevents]
        exact ((takeFields_suffix hrest).trans (takeNode_suffix hinner)).trans
          (List.suffix_cons ..)
    · cases h

theorem takeItems_suffix {fuel : Nat} {events : List Event} {taken : Taken (List Value)}
    (h : takeItems fuel events = .ok taken) : taken.2 <:+ events := by
  match fuel with
  | 0 => simp [takeItems] at h
  | fuel + 1 =>
    refine .trans ?_ (dropComments_suffix events)
    rw [takeItems] at h
    split at h
    · rename_i hevents
      rw [hevents, ← Except.ok.inj h]
      exact List.suffix_cons ..
    · obtain ⟨item, hitem, hrest⟩ := Outcome.bind_eq_ok.mp h
      obtain ⟨inner, hinner, hok⟩ := Outcome.bind_eq_ok.mp hrest
      rw [← Outcome.pure_eq_ok.mp hok]
      exact (takeItems_suffix hinner).trans (takeNode_suffix hitem)

end

/-- If the first event that is no comment is known, so is where the comments at the start end. -/
theorem dropComments_eq_cons {events rest : List Event} {event : Event}
    (h : withoutComments events = event :: rest) :
    ∃ tail, dropComments events = event :: tail ∧ withoutComments tail = rest := by
  rw [← withoutComments_dropComments] at h
  rcases dropComments_cases events with hd | ⟨head, tail, hhead, hd⟩
  · simp [hd] at h
  · rw [hd, withoutComments_cons hhead] at h
    obtain ⟨rfl, hrest⟩ := List.cons.inj h
    exact ⟨tail, hd, hrest⟩

/-! ## Streams -/

/-- A readable node is taken as its value, whatever comments stand among its events. -/
theorem takeNode_of_withoutComments {node : StreamNode} (hnode : node.Readable) {fuel : Nat}
    (hfuel : node.events.length ≤ fuel) {events rest : List Event}
    (h : withoutComments events = withoutComments (node.events ++ rest)) :
    ∃ left, takeNode fuel events = .ok (node.value, left) ∧
      withoutComments left = withoutComments rest := by
  have htake := takeNode_withoutComments fuel events
  rw [h, takeNode_withoutComments, node.takeNode_events hnode fuel hfuel] at htake
  cases hevents : takeNode fuel events with
  | error fault =>
    rw [hevents] at htake
    cases htake
  | ok taken =>
    rw [hevents] at htake
    obtain ⟨hvalue, hrest⟩ := Prod.mk.inj (Except.ok.inj htake)
    exact ⟨taken.2, congrArg Except.ok (Prod.ext hvalue.symm rfl), hrest.symm⟩

/-- Where a stream ends with its end, no comments come after the end. -/
theorem eq_nil_of_suffix {last inner : List Event}
    (hsuffix : (Event.streamEnd :: last) <:+ inner ++ [.streamEnd])
    (hlast : withoutComments last = []) : last = [] := by
  rcases List.eq_nil_or_concat' last with hnil | ⟨init, event, rfl⟩
  · exact hnil
  · obtain ⟨before, hbefore⟩ := hsuffix
    have hevent : event = .streamEnd := by
      rw [← List.cons_append, ← List.append_assoc] at hbefore
      exact List.singleton_injective (List.append_inj' hbefore rfl).2
    rw [withoutComments_append, hevent] at hlast
    simp [withoutComments, Event.isComment] at hlast

/-- A stream denotes the value of its node, if that is readable, whatever comments stand before the
end of the stream. -/
theorem ofEvents?_of_node {node : StreamNode} (hnode : node.Readable) {before : List Event}
    (hlength : node.events.length ≤ before.length)
    (h : withoutComments before = .streamStart :: withoutComments node.events) :
    ofEvents? (before ++ [.streamEnd]) = .ok node.value := by
  obtain ⟨head, tail, hcons, hstarts⟩ := node.events_eq_cons
  have hhead : head.isComment = false := Event.not_comment_of_startsNode hstarts
  have hall : withoutComments (before ++ [.streamEnd]) =
      .streamStart :: withoutComments (node.events ++ [.streamEnd]) := by
    rw [withoutComments_append, h, withoutComments_append]
    rfl
  obtain ⟨rest, hstart, hrest⟩ := dropComments_eq_cons hall
  have hbody : withoutComments rest = head :: withoutComments (tail ++ [.streamEnd]) := by
    rw [hrest, hcons, List.cons_append, withoutComments_cons hhead]
  obtain ⟨more, hmore, hmore'⟩ := dropComments_eq_cons hbody
  have hinside :
      withoutComments (head :: more) = withoutComments (node.events ++ [.streamEnd]) := by
    rw [withoutComments_cons hhead, hmore', ← hbody, hrest]
  have hfuel : node.events.length ≤ 2 * (before ++ [Event.streamEnd]).length + 2 := by
    rw [List.length_append]
    omega
  obtain ⟨left, htake, hleft⟩ := takeNode_of_withoutComments hnode hfuel hinside
  obtain ⟨last, hlast, hempty⟩ := dropComments_eq_cons hleft
  have hsuffix : (Event.streamEnd :: last) <:+ before ++ [.streamEnd] := by
    have hrest' : rest <:+ before ++ [.streamEnd] :=
      (List.suffix_cons _ rest).trans (hstart ▸ dropComments_suffix _)
    have hleft' : left <:+ rest := (takeNode_suffix htake).trans (hmore ▸ dropComments_suffix rest)
    exact (hlast ▸ dropComments_suffix left).trans (hleft'.trans hrest')
  rw [eq_nil_of_suffix hsuffix hempty] at hlast
  rw [ofEvents?, hstart]
  dsimp only
  rw [hmore]
  split
  · rename_i heq
    obtain ⟨rfl, -⟩ := List.cons.inj heq
    cases hstarts
  · rw [htake, Outcome.ok_bind]
    dsimp only
    rw [hlast]
    rfl

/-- The node of a value can be read. -/
theorem readable_node {value : Value} (hproper : value.Proper) : value.node.Readable :=
  value.node.readable_of_sound ⟨value.valid_node, value.straight_node, by rwa [value_node]⟩

/-- A stream around the events of a value denotes this value, whatever comments stand among them. -/
theorem ofEvents?_of_withoutComments {value : Value} (hproper : value.Proper) {inner : List Event}
    (h : withoutComments inner = value.events) :
    ofEvents? (.streamStart :: inner ++ [.streamEnd]) = .ok value := by
  have hlength : value.node.events.length ≤ (Event.streamStart :: inner).length := by
    rw [value.events_node, ← h, List.length_cons]
    exact (List.length_filter_le ..).trans (Nat.le_succ _)
  have hinner : withoutComments (.streamStart :: inner) =
      .streamStart :: withoutComments value.node.events := by
    rw [withoutComments_cons rfl, h, value.events_node, value.withoutComments_events]
  rw [ofEvents?_of_node (readable_node hproper) hlength hinner, value_node]

end Value

/-- A stream denotes the value of its node, if that is sound, whatever comments stand around it. -/
theorem EventStream.ofEvents?_events {node : StreamNode} (h : node.Sound)
    (early late : List String) :
    Value.ofEvents? (EventStream.events ⟨early, some node, late⟩) = .ok node.value := by
  let before := Event.streamStart :: commentEvents early ++ node.events ++ commentEvents late
  have hlength : node.events.length ≤ before.length := by
    simp only [before, List.length_append]
    omega
  have hbefore : withoutComments before = .streamStart :: withoutComments node.events := by
    simp only [before, withoutComments_append, withoutComments_commentEvents, List.append_nil]
    rw [withoutComments_cons rfl, withoutComments_commentEvents]
    rfl
  exact Value.ofEvents?_of_node (node.readable_of_sound h) hlength hbefore

end ConfigSchema
