import ConfigSchema.Event.BlockText
import ConfigSchema.Proofs.Outcome

/-!
# The grammar of event streams

The streams that can be written, as trees with all their comments, and their text as a function of
these trees.

## Main definitions

- `ScalarTag.Accepts` — the texts that fit a type of scalars
- `StreamNode`, `StreamEntries`, `StreamItems` — the nodes of streams and what collections hold
- `EventStream` — a whole stream
- `EventStream.Valid` — the texts of all scalars fit their types
- `EventStream.text` — the text that is written for a stream

## Main statements

- `EventStream.blockText_events` — every valid stream is written
- `EventStream.exists_of_blockText` — only valid streams are written

## Design notes

A collection may end like one of the other kind, but only if it is blank: whether it is blank is
told from its start up to the first end of any collection.
-/

namespace ConfigSchema

/-! ## Scalars -/

/-- The texts that fit a type of scalars. -/
def ScalarTag.Accepts (text : String) : ScalarTag → Prop
  | .null => True
  | .bool => text = "true" ∨ text = "false"
  | .int => (readInt64? text).isSome
  | .float => (readFloat? text).isSome
  | .str => True

/-- The text that is written for a scalar. -/
def written (text : String) (tag : ScalarTag) : String := (renderScalar text tag).toOption.getD ""

/-- The text that is written for a key. -/
def writtenKey (text : String) (tag : ScalarTag) : String :=
  if tag == .null then "null" else written text tag

/-- A scalar whose text fits is written. -/
theorem renderScalar_of_accepts {text : String} {tag : ScalarTag} (h : tag.Accepts text) :
    renderScalar text tag = .ok (written text tag) := by
  have hok : ∃ shown, renderScalar text tag = .ok shown := by
    cases tag with
    | null => exact ⟨_, rfl⟩
    | str => exact ⟨_, rfl⟩
    | bool => exact ⟨text, if_pos (by simpa [ScalarTag.Accepts] using h)⟩
    | int =>
      obtain ⟨number, hnumber⟩ := Option.isSome_iff_exists.mp h
      exact ⟨_, by rw [renderScalar, writtenIntOf?, hnumber]; rfl⟩
    | float =>
      obtain ⟨number, hnumber⟩ := Option.isSome_iff_exists.mp h
      exact ⟨_, by rw [renderScalar, writtenFloatOf?, hnumber]; rfl⟩
  obtain ⟨shown, hshown⟩ := hok
  rw [written, hshown]
  rfl

/-- A scalar whose text does not fit is a fault. -/
theorem renderScalar_of_not_accepts {text : String} {tag : ScalarTag} (h : ¬tag.Accepts text) :
    renderScalar text tag = .error (.invalidScalar text tag) := by
  cases tag with
  | null => exact absurd trivial h
  | str => exact absurd trivial h
  | bool => exact if_neg (by simpa [ScalarTag.Accepts] using h)
  | int =>
    have hnone : readInt64? text = none := by simpa [ScalarTag.Accepts] using h
    rw [renderScalar, writtenIntOf?, hnone]
    rfl
  | float =>
    have hnone : readFloat? text = none := by simpa [ScalarTag.Accepts] using h
    rw [renderScalar, writtenFloatOf?, hnone]
    rfl

/-- A scalar that is written has a text that fits. -/
theorem of_renderScalar {text shown : String} {tag : ScalarTag}
    (h : renderScalar text tag = .ok shown) : tag.Accepts text ∧ shown = written text tag := by
  have haccepts : tag.Accepts text := by
    by_contra hnot
    rw [renderScalar_of_not_accepts hnot] at h
    cases h
  rw [renderScalar_of_accepts haccepts] at h
  exact ⟨haccepts, (Except.ok.inj h).symm⟩

/-! ## Trees -/

mutual

/-- A node of a stream. A collection is crossed if it ends like one of the other kind. -/
inductive StreamNode where
  | scalar (text : String) (tag : ScalarTag)
  | mapping (entries : StreamEntries) (crossed : Bool)
  | sequence (items : StreamItems) (crossed : Bool)

/-- The entries of a mapping, with the comments before them and after the last one. -/
inductive StreamEntries where
  | done
  | comment (text : String) (rest : StreamEntries)
  | entry (key : String) (tag : ScalarTag) (comments : List String) (value : StreamNode)
      (rest : StreamEntries)

/-- The items of a sequence, with the comments before them and after the last one. -/
inductive StreamItems where
  | done
  | comment (text : String) (rest : StreamItems)
  | item (value : StreamNode) (rest : StreamItems)

end

/-- A whole stream: at most one node, and comments around it. -/
structure EventStream where
  early : List String
  node : Option StreamNode
  late : List String

/-- The end of a mapping, or of a sequence in its place. -/
def mappingEndOf (crossed : Bool) : Event := if crossed then .sequenceEnd else .mappingEnd

/-- The end of a sequence, or of a mapping in its place. -/
def sequenceEndOf (crossed : Bool) : Event := mappingEndOf !crossed

theorem mappingEndOf_false : mappingEndOf false = .mappingEnd := rfl

theorem sequenceEndOf_false : sequenceEndOf false = .sequenceEnd := rfl

/-- The events of comments. -/
def commentEvents (texts : List String) : List Event := texts.map .comment

mutual

/-- The events of a node. -/
def StreamNode.events : StreamNode → List Event
  | .scalar text tag => [.scalar text tag]
  | .mapping entries crossed => .mappingStart :: entries.events ++ [mappingEndOf crossed]
  | .sequence items crossed => .sequenceStart :: items.events ++ [sequenceEndOf crossed]

/-- The events of entries. -/
def StreamEntries.events : StreamEntries → List Event
  | .done => []
  | .comment text rest => .comment text :: rest.events
  | .entry key tag comments value rest =>
      .scalar key tag :: commentEvents comments ++ value.events ++ rest.events

/-- The events of items. -/
def StreamItems.events : StreamItems → List Event
  | .done => []
  | .comment text rest => .comment text :: rest.events
  | .item value rest => value.events ++ rest.events

end

/-- The events of a stream. -/
def EventStream.events (stream : EventStream) : List Event :=
  .streamStart :: commentEvents stream.early ++ (stream.node.elim [] StreamNode.events) ++
    commentEvents stream.late ++ [.streamEnd]

/-- The comments of entries that are comments alone. -/
def StreamEntries.inside? : StreamEntries → Option (List String)
  | .done => some []
  | .comment text rest => rest.inside?.map (text :: ·)
  | .entry .. => none

/-- The comments of items that are comments alone. -/
def StreamItems.inside? : StreamItems → Option (List String)
  | .done => some []
  | .comment text rest => rest.inside?.map (text :: ·)
  | .item .. => none

mutual

/-- The texts of all scalars in the node fit, and what is crossed is blank. -/
def StreamNode.Valid : StreamNode → Prop
  | .scalar text tag => tag.Accepts text
  | .mapping entries crossed => entries.Valid ∧ (crossed → entries.inside?.isSome)
  | .sequence items crossed => items.Valid ∧ (crossed → items.inside?.isSome)

/-- The entries are valid. -/
def StreamEntries.Valid : StreamEntries → Prop
  | .done => True
  | .comment _ rest => rest.Valid
  | .entry key tag _ value rest => tag.Accepts key ∧ value.Valid ∧ rest.Valid

/-- The items are valid. -/
def StreamItems.Valid : StreamItems → Prop
  | .done => True
  | .comment _ rest => rest.Valid
  | .item value rest => value.Valid ∧ rest.Valid

end

/-- The node of the stream is valid. -/
def EventStream.Valid (stream : EventStream) : Prop := ∀ node ∈ stream.node, node.Valid

mutual

/-- The text of a node after the sign of its entry or item at the column `indent`, where the
comments before the node are pending. -/
def StreamNode.text (indent : Nat) (pending : List String) : StreamNode → String
  | .scalar text tag =>
      (if (written text tag).isEmpty then "" else " " ++ written text tag) ++ "\n" ++
        commentsText (indent + indentStep) pending
  | .mapping entries _ =>
      match entries.inside? with
      | some inside =>
          " \x7b\x7d\n" ++ commentsText (indent + indentStep) inside ++
            commentsText (indent + indentStep) pending
      | none =>
          "\n" ++ commentsText (indent + indentStep) pending ++
            entries.text (indent + indentStep)
  | .sequence items _ =>
      match items.inside? with
      | some inside =>
          " []\n" ++ commentsText (indent + indentStep) inside ++
            commentsText (indent + indentStep) pending
      | none =>
          "\n" ++ commentsText (indent + indentStep) pending ++ items.text (indent + indentStep)

/-- The text of entries. -/
def StreamEntries.text (indent : Nat) : StreamEntries → String
  | .done => ""
  | .comment text rest => commentText indent text ++ rest.text indent
  | .entry key tag comments value rest =>
      BlockText.keyText indent (writtenKey key tag) ++ value.text indent comments ++
        rest.text indent

/-- The text of items. -/
def StreamItems.text (indent : Nat) : StreamItems → String
  | .done => ""
  | .comment text rest => commentText indent text ++ rest.text indent
  | .item value rest => spaces indent ++ "-" ++ value.text indent [] ++ rest.text indent

end

/-- The text of the node of a document. -/
def StreamNode.rootText : StreamNode → String
  | .scalar text tag =>
      (if (written text tag).isEmpty then "null" else written text tag) ++ "\n"
  | .mapping entries _ =>
      match entries.inside? with
      | some inside => "\x7b\x7d\n" ++ commentsText indentStep inside
      | none => entries.text 0
  | .sequence items _ =>
      match items.inside? with
      | some inside => "[]\n" ++ commentsText indentStep inside
      | none => items.text 0

/-- The text of a stream. -/
def EventStream.text (stream : EventStream) : String :=
  commentsText 0 stream.early ++ stream.node.elim "" StreamNode.rootText ++
    commentsText 0 stream.late

/-! ## Comments -/

theorem takeComments_of_not_comment {event : Event} (h : event.isComment = false)
    (rest : List Event) : takeComments (event :: rest) = ([], event :: rest) := by
  cases event with
  | comment text => cases h
  | _ => rfl

/-- All comments at the start are taken. -/
theorem takeComments_commentEvents (texts : List String) (events : List Event) :
    takeComments (commentEvents texts ++ events) =
      (texts ++ (takeComments events).1, (takeComments events).2) := by
  induction texts with
  | nil => rfl
  | cons text texts ih => simp [commentEvents, takeComments] at ih ⊢; simp [ih]

/-- The comments that are taken stand at the start, and none is after them. -/
theorem commentEvents_takeComments (events : List Event) :
    commentEvents (takeComments events).1 ++ (takeComments events).2 = events := by
  induction events with
  | nil => rfl
  | cons event rest ih =>
    cases event with
    | comment text => simpa [takeComments, commentEvents] using ih
    | _ => rfl

theorem takeComments_eq {events rest : List Event} {texts : List String}
    (h : takeComments events = (texts, rest)) : events = commentEvents texts ++ rest := by
  simpa [h] using (commentEvents_takeComments events).symm

/-- Entries that are comments alone have just the events of these. -/
theorem StreamEntries.events_of_inside {entries : StreamEntries} {inside : List String}
    (h : entries.inside? = some inside) : entries.events = commentEvents inside := by
  match entries with
  | .done => cases h; rfl
  | .comment text rest =>
    obtain ⟨more, hmore, rfl⟩ := Option.map_eq_some_iff.mp h
    rw [events, events_of_inside hmore]
    rfl

/-- Items that are comments alone have just the events of these. -/
theorem StreamItems.events_of_inside {items : StreamItems} {inside : List String}
    (h : items.inside? = some inside) : items.events = commentEvents inside := by
  match items with
  | .done => cases h; rfl
  | .comment text rest =>
    obtain ⟨more, hmore, rfl⟩ := Option.map_eq_some_iff.mp h
    rw [events, events_of_inside hmore]
    rfl

/-- Comments as entries. -/
def StreamEntries.ofComments : List String → StreamEntries
  | [] => .done
  | text :: texts => .comment text (ofComments texts)

/-- Comments as items. -/
def StreamItems.ofComments : List String → StreamItems
  | [] => .done
  | text :: texts => .comment text (ofComments texts)

@[simp] theorem StreamEntries.inside_ofComments (texts : List String) :
    (ofComments texts).inside? = some texts := by
  induction texts with
  | nil => rfl
  | cons text texts ih => simp [ofComments, inside?, ih]

@[simp] theorem StreamItems.inside_ofComments (texts : List String) :
    (ofComments texts).inside? = some texts := by
  induction texts with
  | nil => rfl
  | cons text texts ih => simp [ofComments, inside?, ih]

theorem StreamEntries.valid_ofComments (texts : List String) : (ofComments texts).Valid := by
  induction texts with
  | nil => trivial
  | cons text texts ih => exact ih

theorem StreamItems.valid_ofComments (texts : List String) : (ofComments texts).Valid := by
  induction texts with
  | nil => trivial
  | cons text texts ih => exact ih

/-! ## The first event of a node -/

/-- Whether an event starts a node. -/
def Event.startsNode : Event → Bool
  | .scalar .. => true
  | .mappingStart => true
  | .sequenceStart => true
  | _ => false

/-- A comment has a text. -/
theorem Event.eq_comment {event : Event} (h : event.isComment) :
    ∃ text, event = .comment text := by
  cases event with
  | comment text => exact ⟨text, rfl⟩
  | _ => cases h

/-- The events of a node begin with one that starts a node. -/
theorem StreamNode.events_eq_cons (node : StreamNode) :
    ∃ event tail, node.events = event :: tail ∧ event.startsNode := by
  cases node with
  | scalar text tag => exact ⟨_, _, rfl, rfl⟩
  | mapping entries crossed => exact ⟨_, _, rfl, rfl⟩
  | sequence items crossed => exact ⟨_, _, rfl, rfl⟩

theorem Event.not_comment_of_startsNode {event : Event} (h : event.startsNode) :
    event.isComment = false := by
  cases event with
  | comment text => cases h
  | _ => rfl

/-- Comments have no part in whether a collection closes at once. -/
theorem closesAtOnce_comment (text : String) (events : List Event) :
    closesAtOnce (.comment text :: events) = closesAtOnce events := rfl

/-- A collection that goes on with a node does not close at once. -/
theorem closesAtOnce_of_startsNode {event : Event} (h : event.startsNode) (rest : List Event) :
    closesAtOnce (event :: rest) = false := by
  rw [closesAtOnce, takeComments_of_not_comment (Event.not_comment_of_startsNode h)]
  cases event with
  | scalar text tag => rfl
  | mappingStart => rfl
  | sequenceStart => rfl
  | _ => cases h

/-- A collection that ends after comments closes at once, whatever it ends like. -/
theorem closesAtOnce_mappingEndOf (texts : List String) (crossed : Bool) (rest : List Event) :
    closesAtOnce (commentEvents texts ++ mappingEndOf crossed :: rest) = true := by
  rw [closesAtOnce, takeComments_commentEvents]
  cases crossed <;> rfl

/-- A collection that closes at once holds nothing but comments. -/
theorem of_closesAtOnce {events : List Event} (h : closesAtOnce events) :
    ∃ texts crossed rest, events = commentEvents texts ++ mappingEndOf crossed :: rest ∧
      takeComments events = (texts, mappingEndOf crossed :: rest) := by
  rw [closesAtOnce] at h
  split at h
  · rename_i rest hrest
    exact ⟨(takeComments events).1, false, rest,
      takeComments_eq (Prod.ext rfl hrest), Prod.ext rfl hrest⟩
  · rename_i rest hrest
    exact ⟨(takeComments events).1, true, rest,
      takeComments_eq (Prod.ext rfl hrest), Prod.ext rfl hrest⟩
  · cases h

/-- A mapping with an entry does not close at once. -/
theorem StreamEntries.not_closesAtOnce {entries : StreamEntries} (h : entries.inside? = none)
    (rest : List Event) : closesAtOnce (entries.events ++ rest) = false := by
  match entries with
  | .comment text more =>
    have hmore : more.inside? = none := Option.map_eq_none_iff.mp h
    rw [events, List.cons_append, closesAtOnce_comment]
    exact not_closesAtOnce hmore rest
  | .entry key tag comments value more => exact closesAtOnce_of_startsNode rfl _

/-- A sequence with an item does not close at once. -/
theorem StreamItems.not_closesAtOnce {items : StreamItems} (h : items.inside? = none)
    (rest : List Event) : closesAtOnce (items.events ++ rest) = false := by
  match items with
  | .comment text more =>
    have hmore : more.inside? = none := Option.map_eq_none_iff.mp h
    rw [events, List.cons_append, closesAtOnce_comment]
    exact not_closesAtOnce hmore rest
  | .item value more =>
    obtain ⟨event, tail, hevents, hstart⟩ := value.events_eq_cons
    rw [events, hevents]
    exact closesAtOnce_of_startsNode hstart _

/-! ## Valid streams are written -/

/-- The signs and comments of a blank collection are passed as a whole. -/
theorem emptyInside_eq (indent : Nat) (texts : List String) (crossed : Bool)
    (rest : List Event) :
    BlockText.emptyInside indent (commentEvents texts ++ mappingEndOf crossed :: rest) =
      (commentsText indent texts, rest) := by
  rw [BlockText.emptyInside, takeComments_commentEvents]
  cases crossed <;> simp [mappingEndOf, takeComments]

/-- A key whose text fits is written, and its value after it. -/
theorem entries_of_accepts {key : String} {tag : ScalarTag} (h : tag.Accepts key)
    (fuel indent : Nat) (rest : List Event) :
    BlockText.entries (fuel + 1) indent (.scalar key tag :: rest) = (do
      let value ← BlockText.node fuel indent rest
      let more ← BlockText.entries fuel indent value.2
      return (BlockText.keyText indent (writtenKey key tag) ++ value.1 ++ more.1, more.2)) := by
  rw [BlockText.entries, renderScalar_of_accepts h, writtenKey]
  split <;> rfl

/-- What does not start with a comment or an end is an item. -/
theorem items_of_not_comment {event : Event} (hcomment : event.isComment = false)
    (hend : event ≠ .sequenceEnd) (fuel indent : Nat) (rest : List Event) :
    BlockText.items (fuel + 1) indent (event :: rest) = (do
      let item ← BlockText.node fuel indent (event :: rest)
      let more ← BlockText.items fuel indent item.2
      return (spaces indent ++ "-" ++ item.1 ++ more.1, more.2)) := by
  cases event with
  | comment text => cases hcomment
  | sequenceEnd => exact absurd rfl hend
  | _ => rfl

mutual

/-- A valid node is written, and the events after it are left. -/
theorem StreamNode.node_events (node : StreamNode) (h : node.Valid) (fuel indent : Nat)
    (hfuel : node.events.length ≤ fuel) (pending : List String) (rest : List Event) :
    BlockText.node fuel indent (commentEvents pending ++ (node.events ++ rest)) =
      .ok (node.text indent pending, rest) := by
  obtain ⟨event, tail, hevents, hstart⟩ := node.events_eq_cons
  obtain ⟨fuel, rfl⟩ : ∃ more, fuel = more + 1 :=
    Nat.exists_eq_succ_of_ne_zero (by rw [hevents, List.length_cons] at hfuel; omega)
  have htake : takeComments (commentEvents pending ++ (node.events ++ rest)) =
      (pending, node.events ++ rest) := by
    rw [takeComments_commentEvents, hevents, List.cons_append,
      takeComments_of_not_comment (Event.not_comment_of_startsNode hstart), List.append_nil]
  rw [BlockText.node, htake]
  match node with
  | .scalar text tag =>
    simp only [StreamNode.events, List.cons_append, List.nil_append, renderScalar_of_accepts h]
    rfl
  | .mapping entries crossed =>
    simp only [StreamNode.events, List.length_cons, List.length_append, List.length_nil] at hfuel
    simp only [StreamNode.events, List.cons_append, List.append_assoc, List.nil_append]
    rw [StreamNode.text]
    cases hinside : entries.inside? with
    | some inside =>
      rw [entries.events_of_inside hinside, closesAtOnce_mappingEndOf, emptyInside_eq]
      simp [String.append_assoc]
    | none =>
      have hcrossed : crossed = false := by
        have := h.2
        simpa [hinside] using this
      subst hcrossed
      rw [entries.not_closesAtOnce hinside, mappingEndOf_false,
        entries.entries_events h.1 fuel _ (by omega) rest]
      rfl
  | .sequence items crossed =>
    simp only [StreamNode.events, List.length_cons, List.length_append, List.length_nil] at hfuel
    simp only [StreamNode.events, List.cons_append, List.append_assoc, List.nil_append]
    rw [StreamNode.text]
    cases hinside : items.inside? with
    | some inside =>
      rw [items.events_of_inside hinside, sequenceEndOf, closesAtOnce_mappingEndOf,
        emptyInside_eq]
      simp [String.append_assoc]
    | none =>
      have hcrossed : crossed = false := by
        have := h.2
        simpa [hinside] using this
      subst hcrossed
      rw [items.not_closesAtOnce hinside, sequenceEndOf_false,
        items.items_events h.1 fuel _ (by omega) rest]
      rfl

/-- Valid entries are written up to the end of their mapping. -/
theorem StreamEntries.entries_events (entries : StreamEntries) (h : entries.Valid)
    (fuel indent : Nat) (hfuel : entries.events.length + 1 ≤ fuel) (rest : List Event) :
    BlockText.entries fuel indent (entries.events ++ .mappingEnd :: rest) =
      .ok (entries.text indent, rest) := by
  obtain ⟨fuel, rfl⟩ : ∃ more, fuel = more + 1 :=
    Nat.exists_eq_succ_of_ne_zero (by omega)
  match entries with
  | .done => rfl
  | .comment text more =>
    simp only [StreamEntries.events, List.length_cons] at hfuel
    rw [StreamEntries.events, List.cons_append, BlockText.entries,
      more.entries_events h fuel indent (by omega) rest]
    rfl
  | .entry key tag comments value more =>
    simp only [StreamEntries.events, List.length_cons, List.length_append] at hfuel
    simp only [StreamEntries.events, List.cons_append, List.append_assoc]
    rw [entries_of_accepts h.1, value.node_events h.2.1 fuel indent (by omega),
      Outcome.ok_bind, more.entries_events h.2.2 fuel indent (by omega) rest]
    rfl

/-- Valid items are written up to the end of their sequence. -/
theorem StreamItems.items_events (items : StreamItems) (h : items.Valid) (fuel indent : Nat)
    (hfuel : items.events.length + 1 ≤ fuel) (rest : List Event) :
    BlockText.items fuel indent (items.events ++ .sequenceEnd :: rest) =
      .ok (items.text indent, rest) := by
  obtain ⟨fuel, rfl⟩ : ∃ more, fuel = more + 1 :=
    Nat.exists_eq_succ_of_ne_zero (by omega)
  match items with
  | .done => rfl
  | .comment text more =>
    simp only [StreamItems.events, List.length_cons] at hfuel
    rw [StreamItems.events, List.cons_append, BlockText.items,
      more.items_events h fuel indent (by omega) rest]
    rfl
  | .item value more =>
    obtain ⟨event, tail, hevents, hstart⟩ := value.events_eq_cons
    have hlength : value.events.length = tail.length + 1 := by rw [hevents, List.length_cons]
    simp only [StreamItems.events, List.length_append] at hfuel
    have hnode := value.node_events h.1 fuel indent (by omega) []
      (more.events ++ .sequenceEnd :: rest)
    simp only [commentEvents, List.map_nil, List.nil_append] at hnode
    rw [hevents, List.cons_append] at hnode
    simp only [StreamItems.events, List.append_assoc]
    have hend : event ≠ .sequenceEnd := by
      rintro rfl
      cases hstart
    rw [hevents, List.cons_append,
      items_of_not_comment (Event.not_comment_of_startsNode hstart) hend, hnode,
      Outcome.ok_bind, more.items_events h.2 fuel indent (by omega) rest]
    rfl

end

/-- A valid node is written as the node of a document. -/
theorem StreamNode.document_events (node : StreamNode) (h : node.Valid) (rest : List Event) :
    BlockText.document (node.events ++ rest) = .ok (node.rootText, rest) := by
  match node with
  | .scalar text tag =>
    rw [StreamNode.events, List.cons_append, BlockText.document, renderScalar_of_accepts h]
    rfl
  | .mapping entries crossed =>
    simp only [StreamNode.events, List.cons_append, List.append_assoc, List.nil_append]
    rw [BlockText.document, StreamNode.rootText]
    cases hinside : entries.inside? with
    | some inside =>
      rw [entries.events_of_inside hinside, closesAtOnce_mappingEndOf, emptyInside_eq]
      rfl
    | none =>
      have hcrossed : crossed = false := by
        have := h.2
        simpa [hinside] using this
      subst hcrossed
      rw [entries.not_closesAtOnce hinside, mappingEndOf_false]
      exact entries.entries_events h.1 _ _ (by simp; omega) rest
  | .sequence items crossed =>
    simp only [StreamNode.events, List.cons_append, List.append_assoc, List.nil_append]
    rw [BlockText.document, StreamNode.rootText]
    cases hinside : items.inside? with
    | some inside =>
      rw [items.events_of_inside hinside, sequenceEndOf, closesAtOnce_mappingEndOf,
        emptyInside_eq]
      rfl
    | none =>
      have hcrossed : crossed = false := by
        have := h.2
        simpa [hinside] using this
      subst hcrossed
      rw [items.not_closesAtOnce hinside, sequenceEndOf_false]
      exact items.items_events h.1 _ _ (by simp; omega) rest

/-- Every valid stream is written. -/
theorem EventStream.blockText_events (stream : EventStream) (h : stream.Valid) :
    blockText stream.events = .ok stream.text := by
  obtain ⟨early, node?, late⟩ := stream
  have hlate : takeComments (commentEvents late ++ [.streamEnd]) = (late, [.streamEnd]) := by
    rw [takeComments_commentEvents]
    simp [takeComments]
  simp only [EventStream.events, List.cons_append, List.append_assoc]
  cases node? with
  | none =>
    have hearly : takeComments (commentEvents early ++ (commentEvents late ++ [.streamEnd])) =
        (early ++ late, [.streamEnd]) := by
      rw [takeComments_commentEvents, hlate]
    rw [blockText, Option.elim_none, List.nil_append, hearly]
    show Except.ok (commentsText 0 (early ++ late) ++ "" ++ commentsText 0 []) = _
    rw [EventStream.text, commentsText, commentsText, List.map_append, String.join_append]
    simp [commentsText]
  | some node =>
    have hearly : takeComments (commentEvents early ++
        (node.events ++ (commentEvents late ++ [.streamEnd]))) =
          (early, node.events ++ (commentEvents late ++ [.streamEnd])) := by
      obtain ⟨event, tail, hevents, hstart⟩ := node.events_eq_cons
      rw [takeComments_commentEvents, hevents, List.cons_append,
        takeComments_of_not_comment (Event.not_comment_of_startsNode hstart), List.append_nil]
    rw [blockText, Option.elim_some, hearly]
    dsimp only
    rw [node.document_events (h node rfl), Outcome.ok_bind]
    dsimp only
    rw [hlate]
    rfl

/-! ## Only valid streams are written -/

/-- What closes at once is passed as a blank collection. -/
theorem emptyInside_of_closesAtOnce {events : List Event} (h : closesAtOnce events)
    (indent : Nat) :
    ∃ texts crossed rest, events = commentEvents texts ++ mappingEndOf crossed :: rest ∧
      BlockText.emptyInside indent events = (commentsText indent texts, rest) := by
  obtain ⟨texts, crossed, rest, rfl, htake⟩ := of_closesAtOnce h
  exact ⟨texts, crossed, rest, rfl, emptyInside_eq indent texts crossed rest⟩

theorem StreamEntries.events_ofComments (texts : List String) :
    (ofComments texts).events = commentEvents texts :=
  events_of_inside (inside_ofComments texts)

theorem StreamItems.events_ofComments (texts : List String) :
    (ofComments texts).events = commentEvents texts :=
  events_of_inside (inside_ofComments texts)

/-- Entries up to the end of a collection that did not close at once are not blank. -/
theorem StreamEntries.inside_eq_none {entries : StreamEntries} {rest : List Event}
    (h : ¬closesAtOnce (entries.events ++ .mappingEnd :: rest)) : entries.inside? = none := by
  cases hinside : entries.inside? with
  | none => rfl
  | some inside =>
    rw [events_of_inside hinside] at h
    exact absurd (closesAtOnce_mappingEndOf inside false rest) h

/-- Items up to the end of a collection that did not close at once are not blank. -/
theorem StreamItems.inside_eq_none {items : StreamItems} {rest : List Event}
    (h : ¬closesAtOnce (items.events ++ .sequenceEnd :: rest)) : items.inside? = none := by
  cases hinside : items.inside? with
  | none => rfl
  | some inside =>
    rw [events_of_inside hinside] at h
    exact absurd (closesAtOnce_mappingEndOf inside true rest) h

mutual

/-- What is written as a node is the events of a valid node, after comments. -/
theorem exists_of_node {fuel indent : Nat} {events rest : List Event} {text : String}
    (h : BlockText.node fuel indent events = .ok (text, rest)) :
    ∃ pending node, StreamNode.Valid node ∧
      events = commentEvents pending ++ (node.events ++ rest) ∧
      text = node.text indent pending := by
  match fuel with
  | fuel + 1 =>
    rw [BlockText.node] at h
    obtain ⟨pending, after, htake⟩ : ∃ pending after, takeComments events = (pending, after) :=
      ⟨_, _, rfl⟩
    obtain rfl := takeComments_eq htake
    rw [htake] at h
    dsimp only at h
    refine ⟨pending, ?_⟩
    split at h
    · cases h
    · rename_i shown tag tail
      obtain ⟨rendered, hrendered, h⟩ := Outcome.bind_eq_ok.mp h
      obtain ⟨haccepts, rfl⟩ := of_renderScalar hrendered
      cases h
      exact ⟨.scalar shown tag, haccepts, rfl, rfl⟩
    · rename_i tail
      split at h
      · rename_i hcloses
        obtain ⟨inside, crossed, more, rfl, hinside⟩ :=
          emptyInside_of_closesAtOnce hcloses (indent + indentStep)
        rw [hinside] at h
        cases h
        refine ⟨.mapping (.ofComments inside) crossed,
          ⟨StreamEntries.valid_ofComments inside, by simp⟩, ?_, ?_⟩
        · simp [StreamNode.events, StreamEntries.events_ofComments]
        · simp [StreamNode.text, String.append_assoc]
      · rename_i hcloses
        obtain ⟨⟨body, more⟩, hentries, h⟩ := Outcome.bind_eq_ok.mp h
        obtain ⟨entries, hvalid, rfl, rfl⟩ := exists_of_entries hentries
        cases h
        refine ⟨.mapping entries false, ⟨hvalid, by simp⟩, ?_, ?_⟩
        · simp [StreamNode.events, mappingEndOf_false]
        · simp [StreamNode.text, StreamEntries.inside_eq_none hcloses]
    · rename_i tail
      split at h
      · rename_i hcloses
        obtain ⟨inside, crossed, more, rfl, hinside⟩ :=
          emptyInside_of_closesAtOnce hcloses (indent + indentStep)
        rw [hinside] at h
        cases h
        refine ⟨.sequence (.ofComments inside) (!crossed),
          ⟨StreamItems.valid_ofComments inside, by simp⟩, ?_, ?_⟩
        · simp [StreamNode.events, StreamItems.events_ofComments, sequenceEndOf]
        · simp [StreamNode.text, String.append_assoc]
      · rename_i hcloses
        obtain ⟨⟨body, more⟩, hitems, h⟩ := Outcome.bind_eq_ok.mp h
        obtain ⟨items, hvalid, rfl, rfl⟩ := exists_of_items hitems
        cases h
        refine ⟨.sequence items false, ⟨hvalid, by simp⟩, ?_, ?_⟩
        · simp [StreamNode.events, sequenceEndOf_false]
        · simp [StreamNode.text, StreamItems.inside_eq_none hcloses]
    · cases h

/-- What is written as entries is the events of valid entries and the end of their mapping. -/
theorem exists_of_entries {fuel indent : Nat} {events rest : List Event} {text : String}
    (h : BlockText.entries fuel indent events = .ok (text, rest)) :
    ∃ entries, StreamEntries.Valid entries ∧ events = entries.events ++ .mappingEnd :: rest ∧
      text = entries.text indent := by
  match fuel, events with
  | fuel + 1, .mappingEnd :: tail =>
    cases h
    exact ⟨.done, trivial, rfl, rfl⟩
  | fuel + 1, .comment shown :: tail =>
    obtain ⟨⟨body, more⟩, hrest, h⟩ := Outcome.bind_eq_ok.mp h
    obtain ⟨entries, hvalid, rfl, rfl⟩ := exists_of_entries hrest
    cases h
    exact ⟨.comment shown entries, hvalid, rfl, rfl⟩
  | fuel + 1, .scalar key tag :: tail =>
    have haccepts : tag.Accepts key := by
      by_contra hnot
      have hnull : (tag == .null) = false := by
        cases tag with
        | null => exact absurd trivial hnot
        | _ => rfl
      rw [BlockText.entries, hnull, renderScalar_of_not_accepts hnot] at h
      cases h
    rw [entries_of_accepts haccepts] at h
    obtain ⟨⟨shown, after⟩, hvalue, h⟩ := Outcome.bind_eq_ok.mp h
    obtain ⟨⟨body, more⟩, hrest, h⟩ := Outcome.bind_eq_ok.mp h
    obtain ⟨comments, value, hvalid, rfl, rfl⟩ := exists_of_node hvalue
    obtain ⟨entries, hentries, rfl, rfl⟩ := exists_of_entries hrest
    cases h
    exact ⟨.entry key tag comments value entries, ⟨haccepts, hvalid, hentries⟩,
      by simp [StreamEntries.events], rfl⟩

/-- What is written as items is the events of valid items and the end of their sequence. -/
theorem exists_of_items {fuel indent : Nat} {events rest : List Event} {text : String}
    (h : BlockText.items fuel indent events = .ok (text, rest)) :
    ∃ items, StreamItems.Valid items ∧ events = items.events ++ .sequenceEnd :: rest ∧
      text = items.text indent := by
  match fuel, events with
  | fuel + 1, [] => cases h
  | fuel + 1, first :: tail =>
    by_cases hend : first = .sequenceEnd
    · subst hend
      cases h
      exact ⟨.done, trivial, rfl, rfl⟩
    cases hcomment : first.isComment with
    | true =>
      obtain ⟨shown, rfl⟩ := Event.eq_comment hcomment
      obtain ⟨⟨body, more⟩, hrest, h⟩ := Outcome.bind_eq_ok.mp h
      obtain ⟨items, hvalid, rfl, rfl⟩ := exists_of_items hrest
      cases h
      exact ⟨.comment shown items, hvalid, rfl, rfl⟩
    | false =>
      rw [items_of_not_comment hcomment hend] at h
      obtain ⟨⟨shown, after⟩, hvalue, h⟩ := Outcome.bind_eq_ok.mp h
      obtain ⟨⟨body, more⟩, hrest, h⟩ := Outcome.bind_eq_ok.mp h
      obtain ⟨comments, value, hvalid, hevents, rfl⟩ := exists_of_node hvalue
      obtain ⟨items, hitems, rfl, rfl⟩ := exists_of_items hrest
      cases h
      -- the item starts at once: `first` is no comment
      cases comments with
      | cons text texts =>
        obtain ⟨rfl, -⟩ := List.cons.inj hevents
        cases hcomment
      | nil =>
        refine ⟨.item value items, ⟨hvalid, hitems⟩, ?_, rfl⟩
        rw [hevents]
        simp [StreamItems.events, commentEvents]

end

/-- What is written as the node of a document is the events of a valid node, or nothing before the
end of the stream. -/
theorem exists_of_document {events rest : List Event} {text : String}
    (h : BlockText.document events = .ok (text, rest)) :
    ∃ node : Option StreamNode, (∀ n ∈ node, n.Valid) ∧
      events = node.elim [] StreamNode.events ++ rest ∧
      text = node.elim "" StreamNode.rootText := by
  rw [BlockText.document.eq_def] at h
  dsimp only at h
  split at h
  · cases h
  · cases h
    exact ⟨none, by simp, rfl, rfl⟩
  · rename_i shown tag tail
    obtain ⟨rendered, hrendered, h⟩ := Outcome.bind_eq_ok.mp h
    obtain ⟨haccepts, rfl⟩ := of_renderScalar hrendered
    cases h
    exact ⟨some (.scalar shown tag), by simpa [StreamNode.Valid] using haccepts, rfl, rfl⟩
  · rename_i tail
    split at h
    · rename_i hcloses
      obtain ⟨inside, crossed, more, rfl, hinside⟩ :=
        emptyInside_of_closesAtOnce hcloses indentStep
      rw [hinside] at h
      cases h
      refine ⟨some (.mapping (.ofComments inside) crossed), ?_, ?_, ?_⟩
      · simp [StreamNode.Valid, StreamEntries.valid_ofComments]
      · simp [StreamNode.events, StreamEntries.events_ofComments]
      · simp [StreamNode.rootText]
    · rename_i hcloses
      obtain ⟨entries, hvalid, rfl, rfl⟩ := exists_of_entries h
      refine ⟨some (.mapping entries false), ?_, ?_, ?_⟩
      · simpa [StreamNode.Valid] using hvalid
      · simp [StreamNode.events, mappingEndOf_false]
      · simp [StreamNode.rootText, StreamEntries.inside_eq_none hcloses]
  · rename_i tail
    split at h
    · rename_i hcloses
      obtain ⟨inside, crossed, more, rfl, hinside⟩ :=
        emptyInside_of_closesAtOnce hcloses indentStep
      rw [hinside] at h
      cases h
      refine ⟨some (.sequence (.ofComments inside) (!crossed)), ?_, ?_, ?_⟩
      · simp [StreamNode.Valid, StreamItems.valid_ofComments]
      · simp [StreamNode.events, StreamItems.events_ofComments, sequenceEndOf]
      · simp [StreamNode.rootText]
    · rename_i hcloses
      obtain ⟨items, hvalid, rfl, rfl⟩ := exists_of_items h
      refine ⟨some (.sequence items false), ?_, ?_, ?_⟩
      · simpa [StreamNode.Valid] using hvalid
      · simp [StreamNode.events, sequenceEndOf_false]
      · simp [StreamNode.rootText, StreamItems.inside_eq_none hcloses]
  · cases h

/-- Only valid streams are written. -/
theorem EventStream.exists_of_blockText {events : List Event} {text : String}
    (h : blockText events = .ok text) :
    ∃ stream : EventStream, stream.Valid ∧ events = stream.events ∧ text = stream.text := by
  match events with
  | .streamStart :: tail =>
    obtain ⟨early, after, hearly⟩ : ∃ early after, takeComments tail = (early, after) :=
      ⟨_, _, rfl⟩
    obtain rfl := takeComments_eq hearly
    rw [blockText, hearly] at h
    obtain ⟨⟨body, rest⟩, hnode, h⟩ := Outcome.bind_eq_ok.mp h
    obtain ⟨node, hvalid, rfl, rfl⟩ := exists_of_document hnode
    obtain ⟨late, last, hlate⟩ : ∃ late last, takeComments rest = (late, last) := ⟨_, _, rfl⟩
    obtain rfl := takeComments_eq hlate
    dsimp only at h
    rw [hlate] at h
    dsimp only at h
    split at h
    · cases h
    · cases h
      exact ⟨⟨early, node, late⟩, hvalid, by simp [EventStream.events], rfl⟩
    · cases h
    · cases h

end ConfigSchema
