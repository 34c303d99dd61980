import ConfigSchema.Proofs.Event.Stream

/-!
# The streams that can be written

Exactly the well-nested streams should be written. What is written beyond them are the streams in
which an empty collection ends like one of the other kind.

## Main definitions

- `WellNested` — the streams of the grammar, in which each collection ends like its own kind
- `crossesOver` — whether an empty collection ends like one of the other kind

## Main statements

- `blockText_accepts` — which streams are written, and what is wrong with the others
- `blockText_not_wellNested` — a stream that is written though it is not well nested
-/

namespace ConfigSchema

mutual

/-- Each collection in the node ends like its own kind. -/
def StreamNode.Straight : StreamNode → Prop
  | .scalar _ _ => True
  | .mapping entries crossed => crossed = false ∧ entries.Straight
  | .sequence items crossed => crossed = false ∧ items.Straight

/-- Each collection in the entries ends like its own kind. -/
def StreamEntries.Straight : StreamEntries → Prop
  | .done => True
  | .comment _ rest => rest.Straight
  | .entry _ _ _ value rest => value.Straight ∧ rest.Straight

/-- Each collection in the items ends like its own kind. -/
def StreamItems.Straight : StreamItems → Prop
  | .done => True
  | .comment _ rest => rest.Straight
  | .item value rest => value.Straight ∧ rest.Straight

end

/-- The events are a stream of the grammar: a start, comments, at most one node, comments and an
end, where the texts of all scalars fit and each collection ends like its own kind. -/
def WellNested (events : List Event) : Prop :=
  ∃ stream : EventStream, stream.Valid ∧ (∀ node ∈ stream.node, node.Straight) ∧
    stream.events = events

/-- Whether the event starts a collection that ends, after comments alone, like the other kind. -/
def crossesAt (event : Event) (rest : List Event) : Bool :=
  match event, (takeComments rest).2 with
  | .mappingStart, .sequenceEnd :: _ => true
  | .sequenceStart, .mappingEnd :: _ => true
  | _, _ => false

/-- Whether an empty collection among the events ends like one of the other kind. -/
def crossesOver : List Event → Bool
  | [] => false
  | event :: rest => crossesAt event rest || crossesOver rest

/-! ## Collections that end like the other kind -/

/-- Only the start of a collection crosses. -/
theorem crossesOver_cons {event : Event} (hmapping : event ≠ .mappingStart)
    (hsequence : event ≠ .sequenceStart) (rest : List Event) :
    crossesOver (event :: rest) = crossesOver rest := by
  cases event with
  | mappingStart => exact absurd rfl hmapping
  | sequenceStart => exact absurd rfl hsequence
  | _ => rfl

theorem crossesOver_mappingEndOf (crossed : Bool) (rest : List Event) :
    crossesOver (mappingEndOf crossed :: rest) = crossesOver rest := by
  cases crossed <;> rfl

theorem crossesOver_commentEvents (texts : List String) (rest : List Event) :
    crossesOver (commentEvents texts ++ rest) = crossesOver rest := by
  induction texts with
  | nil => rfl
  | cons text texts ih => exact ih

/-- What does not go on with an end does not cross. -/
theorem crossesAt_of_startsNode (start : Event) {event : Event} {rest tail : List Event}
    (hrest : (takeComments rest).2 = event :: tail) (h : event.startsNode) :
    crossesAt start rest = false := by
  rw [crossesAt.eq_def, hrest]
  cases event with
  | scalar text tag => cases start <;> rfl
  | mappingStart => cases start <;> rfl
  | sequenceStart => cases start <;> rfl
  | _ => cases h

/-- Entries that are not blank go on with a node after their comments. -/
theorem StreamEntries.takeComments_events {entries : StreamEntries}
    (h : entries.inside? = none) (rest : List Event) :
    ∃ event tail, (takeComments (entries.events ++ rest)).2 = event :: tail ∧
      event.startsNode := by
  match entries with
  | .comment text more =>
    have hmore : more.inside? = none := Option.map_eq_none_iff.mp h
    exact takeComments_events hmore rest
  | .entry key tag comments value more => exact ⟨.scalar key tag, _, rfl, rfl⟩

/-- Items that are not blank go on with a node after their comments. -/
theorem StreamItems.takeComments_events {items : StreamItems}
    (h : items.inside? = none) (rest : List Event) :
    ∃ event tail, (takeComments (items.events ++ rest)).2 = event :: tail ∧
      event.startsNode := by
  match items with
  | .comment text more =>
    have hmore : more.inside? = none := Option.map_eq_none_iff.mp h
    exact takeComments_events hmore rest
  | .item value more =>
    obtain ⟨event, tail, hevents, hstart⟩ := value.events_eq_cons
    refine ⟨event, tail ++ (more.events ++ rest), ?_, hstart⟩
    rw [events, hevents, List.append_assoc, List.cons_append,
      takeComments_of_not_comment (Event.not_comment_of_startsNode hstart)]

/-- A mapping crosses at its start exactly if it is crossed. -/
theorem crossesAt_mappingStart {entries : StreamEntries} {crossed : Bool}
    (h : (StreamNode.mapping entries crossed).Valid) (rest : List Event) :
    crossesAt .mappingStart (entries.events ++ mappingEndOf crossed :: rest) = crossed := by
  cases hinside : entries.inside? with
  | some inside =>
    rw [entries.events_of_inside hinside, crossesAt.eq_def, takeComments_commentEvents]
    cases crossed <;> rfl
  | none =>
    obtain ⟨event, tail, hrest, hstart⟩ :=
      entries.takeComments_events hinside (mappingEndOf crossed :: rest)
    have hcrossed : crossed = false := by
      have := h.2
      simpa [hinside] using this
    rw [crossesAt_of_startsNode .mappingStart hrest hstart, hcrossed]

/-- A sequence crosses at its start exactly if it is crossed. -/
theorem crossesAt_sequenceStart {items : StreamItems} {crossed : Bool}
    (h : (StreamNode.sequence items crossed).Valid) (rest : List Event) :
    crossesAt .sequenceStart (items.events ++ sequenceEndOf crossed :: rest) = crossed := by
  cases hinside : items.inside? with
  | some inside =>
    rw [items.events_of_inside hinside, crossesAt.eq_def, takeComments_commentEvents]
    cases crossed <;> rfl
  | none =>
    obtain ⟨event, tail, hrest, hstart⟩ :=
      items.takeComments_events hinside (sequenceEndOf crossed :: rest)
    have hcrossed : crossed = false := by
      have := h.2
      simpa [hinside] using this
    rw [crossesAt_of_startsNode .sequenceStart hrest hstart, hcrossed]

mutual

/-- The events of a valid node cross nowhere exactly if each collection in it is straight. -/
theorem StreamNode.crossesOver_events (node : StreamNode) (h : node.Valid)
    (rest : List Event) :
    crossesOver (node.events ++ rest) = false ↔
      node.Straight ∧ crossesOver rest = false := by
  match node with
  | .scalar text tag => simp [StreamNode.events, crossesOver, crossesAt, StreamNode.Straight]
  | .mapping entries crossed =>
    rw [StreamNode.events, List.append_assoc, List.cons_append, List.cons_append,
      List.nil_append, crossesOver, crossesAt_mappingStart h, Bool.or_eq_false_iff,
      entries.crossesOver_events h.1, crossesOver_mappingEndOf, StreamNode.Straight, and_assoc]
  | .sequence items crossed =>
    rw [StreamNode.events, List.append_assoc, List.cons_append, List.cons_append,
      List.nil_append, crossesOver, crossesAt_sequenceStart h, Bool.or_eq_false_iff,
      items.crossesOver_events h.1, sequenceEndOf, crossesOver_mappingEndOf,
      StreamNode.Straight, and_assoc]

theorem StreamEntries.crossesOver_events (entries : StreamEntries) (h : entries.Valid)
    (rest : List Event) :
    crossesOver (entries.events ++ rest) = false ↔
      entries.Straight ∧ crossesOver rest = false := by
  match entries with
  | .done => simp [StreamEntries.events, StreamEntries.Straight]
  | .comment text more => exact more.crossesOver_events h rest
  | .entry key tag comments value more =>
    rw [StreamEntries.events, List.cons_append, List.cons_append, List.cons_append,
      crossesOver_cons (by simp) (by simp), List.append_assoc, List.append_assoc,
      crossesOver_commentEvents, value.crossesOver_events h.2.1,
      more.crossesOver_events h.2.2, StreamEntries.Straight, and_assoc]

theorem StreamItems.crossesOver_events (items : StreamItems) (h : items.Valid)
    (rest : List Event) :
    crossesOver (items.events ++ rest) = false ↔
      items.Straight ∧ crossesOver rest = false := by
  match items with
  | .done => simp [StreamItems.events, StreamItems.Straight]
  | .comment text more => exact more.crossesOver_events h rest
  | .item value more =>
    rw [StreamItems.events, List.append_assoc, value.crossesOver_events h.1,
      more.crossesOver_events h.2, StreamItems.Straight, and_assoc]

end

/-- The events of a valid stream cross nowhere exactly if its node is straight. -/
theorem EventStream.crossesOver_events (stream : EventStream) (h : stream.Valid) :
    crossesOver stream.events = false ↔ ∀ node ∈ stream.node, node.Straight := by
  obtain ⟨early, node?, late⟩ := stream
  have hlate : crossesOver (commentEvents late ++ [.streamEnd]) = false := by
    rw [crossesOver_commentEvents]
    rfl
  simp only [EventStream.events, List.cons_append, List.append_assoc]
  rw [crossesOver_cons (by simp) (by simp), crossesOver_commentEvents]
  cases node? with
  | none => simpa using hlate
  | some node =>
    rw [Option.elim_some, node.crossesOver_events (h node rfl), hlate]
    simp

/-! ## Faults of scalars -/

/-- A scalar whose text does not fit its type is among the events. -/
def HasMisfit (text : String) (tag : ScalarTag) (events : List Event) : Prop :=
  .scalar text tag ∈ events ∧ ¬tag.Accepts text

theorem HasMisfit.mono {text : String} {tag : ScalarTag} {events more : List Event}
    (h : HasMisfit text tag events) (hmore : events ⊆ more) : HasMisfit text tag more :=
  ⟨hmore h.1, h.2⟩

/-- Only a scalar whose text does not fit is reported as such. -/
theorem hasMisfit_of_renderScalar {shown text : String} {kind tag : ScalarTag}
    (h : renderScalar shown kind = .error (.invalidScalar text tag)) (rest : List Event) :
    HasMisfit text tag (.scalar shown kind :: rest) := by
  by_cases haccepts : kind.Accepts shown
  · rw [renderScalar_of_accepts haccepts] at h
    cases h
  · rw [renderScalar_of_not_accepts haccepts] at h
    cases h
    exact ⟨List.mem_cons_self, haccepts⟩

theorem takeComments_subset (events : List Event) : (takeComments events).2 ⊆ events := by
  intro event hevent
  rw [← commentEvents_takeComments events]
  exact List.mem_append_right _ hevent

mutual

theorem hasMisfit_of_node {fuel indent : Nat} {events : List Event} {text : String}
    {tag : ScalarTag} (h : BlockText.node fuel indent events = .error (.invalidScalar text tag)) :
    HasMisfit text tag events := by
  match fuel with
  | 0 => cases h
  | fuel + 1 =>
    refine HasMisfit.mono ?_ (takeComments_subset events)
    rw [BlockText.node] at h
    dsimp only at h
    split at h
    · cases h
    · rename_i shown kind tail hevents
      rw [hevents]
      rcases Outcome.bind_eq_error.mp h with hshown | ⟨rendered, -, h⟩
      · exact hasMisfit_of_renderScalar hshown tail
      · cases h
    · rename_i tail hevents
      rw [hevents]
      split at h
      · cases h
      · rcases Outcome.bind_eq_error.mp h with hentries | ⟨body, -, h⟩
        · exact (hasMisfit_of_entries hentries).mono (List.subset_cons_self _ _)
        · cases h
    · rename_i tail hevents
      rw [hevents]
      split at h
      · cases h
      · rcases Outcome.bind_eq_error.mp h with hitems | ⟨body, -, h⟩
        · exact (hasMisfit_of_items hitems).mono (List.subset_cons_self _ _)
        · cases h
    · cases h

theorem hasMisfit_of_entries {fuel indent : Nat} {events : List Event} {text : String}
    {tag : ScalarTag}
    (h : BlockText.entries fuel indent events = .error (.invalidScalar text tag)) :
    HasMisfit text tag events := by
  match fuel, events with
  | 0, _ => cases h
  | fuel + 1, [] => cases h
  | fuel + 1, .comment shown :: tail =>
    rcases Outcome.bind_eq_error.mp h with hrest | ⟨more, -, h⟩
    · exact (hasMisfit_of_entries hrest).mono (List.subset_cons_self _ _)
    · cases h
  | fuel + 1, .scalar key kind :: tail =>
    by_cases haccepts : kind.Accepts key
    · rw [entries_of_accepts haccepts] at h
      refine HasMisfit.mono ?_ (List.subset_cons_self _ _)
      rcases Outcome.bind_eq_error.mp h with hvalue | ⟨⟨shown, after⟩, hvalue, h⟩
      · exact hasMisfit_of_node hvalue
      obtain ⟨comments, value, -, hevents, -⟩ := exists_of_node hvalue
      rcases Outcome.bind_eq_error.mp h with hrest | ⟨more, -, h⟩
      · rw [hevents]
        exact (hasMisfit_of_entries hrest).mono (by simp)
      · cases h
    · have hnull : (kind == .null) = false := by
        cases kind with
        | null => exact absurd trivial haccepts
        | _ => rfl
      rw [BlockText.entries, hnull, renderScalar_of_not_accepts haccepts] at h
      cases h
      exact ⟨List.mem_cons_self, haccepts⟩
  | fuel + 1, .streamStart :: _ => cases h
  | fuel + 1, .streamEnd :: _ => cases h
  | fuel + 1, .mappingStart :: _ => cases h
  | fuel + 1, .mappingEnd :: _ => cases h
  | fuel + 1, .sequenceStart :: _ => cases h
  | fuel + 1, .sequenceEnd :: _ => cases h

theorem hasMisfit_of_items {fuel indent : Nat} {events : List Event} {text : String}
    {tag : ScalarTag} (h : BlockText.items fuel indent events = .error (.invalidScalar text tag)) :
    HasMisfit text tag events := by
  match fuel, events with
  | 0, _ => cases h
  | fuel + 1, [] => cases h
  | fuel + 1, first :: tail =>
    by_cases hend : first = .sequenceEnd
    · subst hend
      cases h
    cases hcomment : first.isComment with
    | true =>
      obtain ⟨shown, rfl⟩ := Event.eq_comment hcomment
      rcases Outcome.bind_eq_error.mp h with hrest | ⟨more, -, h⟩
      · exact (hasMisfit_of_items hrest).mono (List.subset_cons_self _ _)
      · cases h
    | false =>
      rw [items_of_not_comment hcomment hend] at h
      rcases Outcome.bind_eq_error.mp h with hvalue | ⟨⟨shown, after⟩, hvalue, h⟩
      · exact hasMisfit_of_node hvalue
      obtain ⟨comments, value, -, hevents, -⟩ := exists_of_node hvalue
      rcases Outcome.bind_eq_error.mp h with hrest | ⟨more, -, h⟩
      · rw [hevents]
        exact (hasMisfit_of_items hrest).mono (by simp)
      · cases h

end

theorem hasMisfit_of_document {events : List Event} {text : String} {tag : ScalarTag}
    (h : BlockText.document events = .error (.invalidScalar text tag)) :
    HasMisfit text tag events := by
  rw [BlockText.document.eq_def] at h
  dsimp only at h
  split at h
  · cases h
  · cases h
  · rcases Outcome.bind_eq_error.mp h with hshown | ⟨rendered, -, h⟩
    · exact hasMisfit_of_renderScalar hshown _
    · cases h
  · split at h
    · cases h
    · exact (hasMisfit_of_entries h).mono (List.subset_cons_self _ _)
  · split at h
    · cases h
    · exact (hasMisfit_of_items h).mono (List.subset_cons_self _ _)
  · cases h

/-- A scalar that is reported to be invalid is among the events, and its text does not fit. -/
theorem hasMisfit_of_blockText {events : List Event} {text : String} {tag : ScalarTag}
    (h : blockText events = .error (.invalidScalar text tag)) : HasMisfit text tag events := by
  rw [blockText.eq_def] at h
  split at h
  · cases h
  · rename_i tail
    refine HasMisfit.mono ?_ (List.subset_cons_self _ _)
    rcases Outcome.bind_eq_error.mp h with hnode | ⟨⟨body, rest⟩, -, h⟩
    · exact (hasMisfit_of_document hnode).mono (takeComments_subset tail)
    · dsimp only at h
      split at h <;> cases h
  · cases h

/-! ## Main statements -/

/-- A stream is written exactly if it is valid, where an empty collection may end like one of the
other kind. Those streams are well nested exactly if no empty collection in them does. All others
are unbalanced or have a scalar whose text does not fit its type, which is then named. -/
theorem blockText_accepts (events : List Event) :
    ((∃ text, blockText events = .ok text) ↔
        ∃ stream : EventStream, stream.Valid ∧ stream.events = events) ∧
      (WellNested events ↔
        (∃ text, blockText events = .ok text) ∧ crossesOver events = false) ∧
      ∀ text tag, blockText events = .error (.invalidScalar text tag) →
        .scalar text tag ∈ events ∧ ¬tag.Accepts text := by
  have haccepts : (∃ text, blockText events = .ok text) ↔
      ∃ stream : EventStream, stream.Valid ∧ stream.events = events := by
    constructor
    · rintro ⟨text, htext⟩
      obtain ⟨stream, hvalid, hevents, -⟩ := EventStream.exists_of_blockText htext
      exact ⟨stream, hvalid, hevents.symm⟩
    · rintro ⟨stream, hvalid, rfl⟩
      exact ⟨stream.text, stream.blockText_events hvalid⟩
  refine ⟨haccepts, ?_, fun text tag h => hasMisfit_of_blockText h⟩
  rw [haccepts]
  constructor
  · rintro ⟨stream, hvalid, hstraight, rfl⟩
    exact ⟨⟨stream, hvalid, rfl⟩, (stream.crossesOver_events hvalid).mpr hstraight⟩
  · rintro ⟨⟨stream, hvalid, rfl⟩, hcrosses⟩
    exact ⟨stream, hvalid, (stream.crossesOver_events hvalid).mp hcrosses, rfl⟩

/-- A mapping that ends like a sequence is written as an empty mapping. -/
theorem blockText_not_wellNested :
    blockText [.streamStart, .mappingStart, .sequenceEnd, .streamEnd] = .ok "\x7b\x7d\n" ∧
      ¬WellNested [.streamStart, .mappingStart, .sequenceEnd, .streamEnd] := by
  refine ⟨by decide +kernel, ?_⟩
  rintro ⟨stream, hvalid, hstraight, hevents⟩
  have hcrosses := (stream.crossesOver_events hvalid).mpr hstraight
  rw [hevents] at hcrosses
  exact absurd hcrosses (by decide)

end ConfigSchema
