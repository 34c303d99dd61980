import ConfigSchema.Proofs.Event.Lexed
import ConfigSchema.Proofs.Value.Events

/-!
# Comments in written text

A stream is written with its comments, and without them. Both texts denote the same value, if the
comments are inert. A comment that holds a character that YAML forbids makes its text unreadable.

## Main definitions

- `EventStream.bare` — a stream without its comments
- `ShowsComment` — the lines of a comment are in a text
- `ParseFault.withoutPlace` — a fault, wherever it is

## Main statements

- `EventStream.showsComment` — the text of a stream shows its comments
- `ofText_withoutComments` — comments make no difference, or make the text unreadable
-/

namespace ConfigSchema

open Yaml (Inert isAllowed Problem Tree)

/-! ## Streams without comments -/

mutual

/-- A node without its comments. -/
def StreamNode.bare : StreamNode → StreamNode
  | .scalar text tag => .scalar text tag
  | .mapping entries crossed => .mapping entries.bare crossed
  | .sequence items crossed => .sequence items.bare crossed

/-- Entries without their comments. -/
def StreamEntries.bare : StreamEntries → StreamEntries
  | .done => .done
  | .comment _ rest => rest.bare
  | .entry key tag _ value rest => .entry key tag [] value.bare rest.bare

/-- Items without their comments. -/
def StreamItems.bare : StreamItems → StreamItems
  | .done => .done
  | .comment _ rest => rest.bare
  | .item value rest => .item value.bare rest.bare

end

/-- A stream without its comments. -/
def EventStream.bare (stream : EventStream) : EventStream :=
  ⟨[], stream.node.map StreamNode.bare, []⟩

@[simp] theorem withoutComments_scalar (text : String) (tag : ScalarTag) (rest : List Event) :
    withoutComments (.scalar text tag :: rest) = .scalar text tag :: withoutComments rest := rfl

@[simp] theorem withoutComments_streamStart (rest : List Event) :
    withoutComments (.streamStart :: rest) = .streamStart :: withoutComments rest := rfl

@[simp] theorem withoutComments_streamEnd (rest : List Event) :
    withoutComments (.streamEnd :: rest) = .streamEnd :: withoutComments rest := rfl

theorem commentEvents_nil : commentEvents [] = [] := rfl

theorem isComment_mappingEndOf (crossed : Bool) : (mappingEndOf crossed).isComment = false := by
  cases crossed <;> rfl

mutual

/-- The events of a node without its comments are its events without the comments among them. -/
theorem StreamNode.events_bare (node : StreamNode) :
    node.bare.events = withoutComments node.events := by
  match node with
  | .scalar text tag => rfl
  | .mapping entries crossed =>
    rw [StreamNode.bare, StreamNode.events, StreamNode.events, entries.events_bare,
      withoutComments_enclosed (by rfl) (isComment_mappingEndOf crossed)]
  | .sequence items crossed =>
    rw [StreamNode.bare, StreamNode.events, StreamNode.events, items.events_bare, sequenceEndOf,
      withoutComments_enclosed (by rfl) (isComment_mappingEndOf !crossed)]

theorem StreamEntries.events_bare (entries : StreamEntries) :
    entries.bare.events = withoutComments entries.events := by
  match entries with
  | .done => rfl
  | .comment text rest => exact rest.events_bare
  | .entry key tag comments value rest =>
    simp [StreamEntries.bare, StreamEntries.events, value.events_bare, rest.events_bare,
      commentEvents_nil]

theorem StreamItems.events_bare (items : StreamItems) :
    items.bare.events = withoutComments items.events := by
  match items with
  | .done => rfl
  | .comment text rest => exact rest.events_bare
  | .item value rest =>
    rw [StreamItems.bare, StreamItems.events, StreamItems.events, value.events_bare,
      rest.events_bare, withoutComments_append]

end

theorem EventStream.events_bare (stream : EventStream) :
    stream.bare.events = withoutComments stream.events := by
  obtain ⟨early, node?, late⟩ := stream
  cases node? with
  | none => simp [bare, events, commentEvents_nil]
  | some node => simp [bare, events, node.events_bare, commentEvents_nil]

/-- Nothing is left of entries that are comments alone. -/
theorem StreamEntries.bare_of_inside {entries : StreamEntries} {inside : List String}
    (h : entries.inside? = some inside) : entries.bare = .done := by
  match entries with
  | .done => rfl
  | .comment text rest =>
    obtain ⟨more, hmore, -⟩ := Option.map_eq_some_iff.mp h
    rw [bare]
    exact bare_of_inside hmore

theorem StreamItems.bare_of_inside {items : StreamItems} {inside : List String}
    (h : items.inside? = some inside) : items.bare = .done := by
  match items with
  | .done => rfl
  | .comment text rest =>
    obtain ⟨more, hmore, -⟩ := Option.map_eq_some_iff.mp h
    rw [bare]
    exact bare_of_inside hmore

mutual

theorem StreamNode.valid_bare (node : StreamNode) (h : node.Valid) : node.bare.Valid := by
  match node with
  | .scalar text tag => exact h
  | .mapping entries crossed =>
    refine ⟨entries.valid_bare h.1, fun hcrossed => ?_⟩
    obtain ⟨inside, hinside⟩ := Option.isSome_iff_exists.mp (h.2 hcrossed)
    rw [StreamEntries.bare_of_inside hinside]
    rfl
  | .sequence items crossed =>
    refine ⟨items.valid_bare h.1, fun hcrossed => ?_⟩
    obtain ⟨inside, hinside⟩ := Option.isSome_iff_exists.mp (h.2 hcrossed)
    rw [StreamItems.bare_of_inside hinside]
    rfl

theorem StreamEntries.valid_bare (entries : StreamEntries) (h : entries.Valid) :
    entries.bare.Valid := by
  match entries with
  | .done => trivial
  | .comment text rest => exact rest.valid_bare h
  | .entry key tag comments value rest =>
    exact ⟨h.1, value.valid_bare h.2.1, rest.valid_bare h.2.2⟩

theorem StreamItems.valid_bare (items : StreamItems) (h : items.Valid) : items.bare.Valid := by
  match items with
  | .done => trivial
  | .comment text rest => exact rest.valid_bare h
  | .item value rest => exact ⟨value.valid_bare h.1, rest.valid_bare h.2⟩

end

theorem EventStream.valid_bare {stream : EventStream} (h : stream.Valid) : stream.bare.Valid := by
  intro node hnode
  obtain ⟨full, hfull, rfl⟩ := Option.map_eq_some_iff.mp hnode
  exact full.valid_bare (h full hfull)

mutual

/-- Comments have no part in the tree of a node. -/
theorem StreamNode.tree?_bare (node : StreamNode) (depth : Nat) :
    node.bare.tree? depth = node.tree? depth := by
  match node, depth with
  | .scalar text tag, _ => rfl
  | .mapping entries crossed, 0 => rfl
  | .mapping entries crossed, depth + 1 =>
    rw [StreamNode.bare, StreamNode.tree?, StreamNode.tree?, entries.trees?_bare]
  | .sequence items crossed, 0 => rfl
  | .sequence items crossed, depth + 1 =>
    rw [StreamNode.bare, StreamNode.tree?, StreamNode.tree?, items.trees?_bare]

theorem StreamEntries.trees?_bare (entries : StreamEntries) (depth : Nat)
    (done : List (Tree × Tree)) : entries.bare.trees? depth done = entries.trees? depth done := by
  match entries with
  | .done => rfl
  | .comment text rest => exact rest.trees?_bare depth done
  | .entry key tag comments value rest =>
    simp only [StreamEntries.bare, StreamEntries.trees?, value.tree?_bare, rest.trees?_bare]

theorem StreamItems.trees?_bare (items : StreamItems) (depth : Nat) (done : List Tree) :
    items.bare.trees? depth done = items.trees? depth done := by
  match items with
  | .done => rfl
  | .comment text rest => exact rest.trees?_bare depth done
  | .item value rest =>
    simp only [StreamItems.bare, StreamItems.trees?, value.tree?_bare, rest.trees?_bare]

end

/-! ## Comments in the text -/

/-- The lines of the comment are in the text: each character of the lines is. -/
def ShowsComment (comment text : String) : Prop :=
  ∃ indent, (commentText indent comment).toList ⊆ text.toList

theorem ShowsComment.append_left {comment before : String} (h : ShowsComment comment before)
    (after : String) : ShowsComment comment (before ++ after) := by
  obtain ⟨indent, hlines⟩ := h
  exact ⟨indent, fun c hc => by simp [hlines hc]⟩

theorem ShowsComment.append_right {comment after : String} (h : ShowsComment comment after)
    (before : String) : ShowsComment comment (before ++ after) := by
  obtain ⟨indent, hlines⟩ := h
  exact ⟨indent, fun c hc => by simp [hlines hc]⟩

theorem showsComment_commentsText {comment : String} {texts : List String} (h : comment ∈ texts)
    (indent : Nat) : ShowsComment comment (commentsText indent texts) := by
  refine ⟨indent, fun c hc => ?_⟩
  rw [commentsText, String.toList_join, List.mem_flatMap]
  exact ⟨_, List.mem_map_of_mem h, hc⟩

theorem mem_commentEvents {comment : String} {texts : List String} :
    Event.comment comment ∈ commentEvents texts ↔ comment ∈ texts := by
  simp [commentEvents]

theorem comment_ne_mappingEndOf (comment : String) (crossed : Bool) :
    Event.comment comment ≠ mappingEndOf crossed := by
  cases crossed <;> simp [mappingEndOf]

mutual

/-- The text of a node shows its comments. -/
theorem StreamNode.showsComment (node : StreamNode) {comment : String} {pending : List String}
    (indent : Nat) (h : .comment comment ∈ node.events ∨ comment ∈ pending) :
    ShowsComment comment (node.text indent pending) := by
  have hpending (hmem : comment ∈ pending) := showsComment_commentsText hmem (indent + indentStep)
  match node with
  | .scalar text tag =>
    exact (hpending (h.resolve_left (by simp [StreamNode.events]))).append_right _
  | .mapping entries crossed =>
    have hcomment : .comment comment ∈ entries.events ∨ comment ∈ pending := by
      simpa [StreamNode.events, comment_ne_mappingEndOf] using h
    rw [StreamNode.text]
    split
    · rename_i inside hinside
      rw [entries.events_of_inside hinside, mem_commentEvents] at hcomment
      rcases hcomment with hcomment | hcomment
      · exact ((showsComment_commentsText hcomment _).append_right _).append_left _
      · exact (hpending hcomment).append_right _
    · rcases hcomment with hcomment | hcomment
      · exact (entries.showsComment _ hcomment).append_right _
      · exact ((hpending hcomment).append_right _).append_left _
  | .sequence items crossed =>
    have hcomment : .comment comment ∈ items.events ∨ comment ∈ pending := by
      simpa [StreamNode.events, sequenceEndOf, comment_ne_mappingEndOf] using h
    rw [StreamNode.text]
    split
    · rename_i inside hinside
      rw [items.events_of_inside hinside, mem_commentEvents] at hcomment
      rcases hcomment with hcomment | hcomment
      · exact ((showsComment_commentsText hcomment _).append_right _).append_left _
      · exact (hpending hcomment).append_right _
    · rcases hcomment with hcomment | hcomment
      · exact (items.showsComment _ hcomment).append_right _
      · exact ((hpending hcomment).append_right _).append_left _

theorem StreamEntries.showsComment (entries : StreamEntries) {comment : String} (indent : Nat)
    (h : .comment comment ∈ entries.events) : ShowsComment comment (entries.text indent) := by
  match entries with
  | .done => cases h
  | .comment text rest =>
    rcases List.mem_cons.mp h with heq | hrest
    · cases heq
      exact ShowsComment.append_left ⟨indent, List.Subset.refl _⟩ _
    · exact (rest.showsComment indent hrest).append_right _
  | .entry key tag comments value rest =>
    have hcomment : (.comment comment ∈ value.events ∨ comment ∈ comments) ∨
        .comment comment ∈ rest.events := by
      simpa [StreamEntries.events, mem_commentEvents, or_comm, or_left_comm, or_assoc] using h
    rcases hcomment with hvalue | hrest
    · exact ((value.showsComment indent hvalue).append_right _).append_left _
    · exact (rest.showsComment indent hrest).append_right _

theorem StreamItems.showsComment (items : StreamItems) {comment : String} (indent : Nat)
    (h : .comment comment ∈ items.events) : ShowsComment comment (items.text indent) := by
  match items with
  | .done => cases h
  | .comment text rest =>
    rcases List.mem_cons.mp h with heq | hrest
    · cases heq
      exact ShowsComment.append_left ⟨indent, List.Subset.refl _⟩ _
    · exact (rest.showsComment indent hrest).append_right _
  | .item value rest =>
    rcases List.mem_append.mp h with hvalue | hrest
    · exact ((value.showsComment indent (.inl hvalue)).append_right _).append_left _
    · exact (rest.showsComment indent hrest).append_right _

end

theorem StreamNode.showsComment_rootText (node : StreamNode) {comment : String}
    (h : .comment comment ∈ node.events) : ShowsComment comment node.rootText := by
  cases node with
  | scalar text tag => simp [events] at h
  | mapping entries crossed =>
    have hcomment : .comment comment ∈ entries.events := by
      simpa [events, comment_ne_mappingEndOf] using h
    rw [rootText]
    split
    · rename_i inside hinside
      rw [entries.events_of_inside hinside, mem_commentEvents] at hcomment
      exact (showsComment_commentsText hcomment _).append_right _
    · exact entries.showsComment 0 hcomment
  | sequence items crossed =>
    have hcomment : .comment comment ∈ items.events := by
      simpa [events, sequenceEndOf, comment_ne_mappingEndOf] using h
    rw [rootText]
    split
    · rename_i inside hinside
      rw [items.events_of_inside hinside, mem_commentEvents] at hcomment
      exact (showsComment_commentsText hcomment _).append_right _
    · exact items.showsComment 0 hcomment

theorem EventStream.showsComment {stream : EventStream} {comment : String}
    (h : .comment comment ∈ stream.events) : ShowsComment comment stream.text := by
  obtain ⟨early, node?, late⟩ := stream
  have hcomment : comment ∈ early ∨ .comment comment ∈ node?.elim [] StreamNode.events ∨
      comment ∈ late := by
    simpa [events, mem_commentEvents] using h
  rw [text]
  rcases hcomment with hearly | hnode | hlate
  · exact ((showsComment_commentsText hearly 0).append_left _).append_left _
  · cases node? with
    | none => cases hnode
    | some node => exact ((node.showsComment_rootText hnode).append_right _).append_left _
  · exact (showsComment_commentsText hlate 0).append_right _

/-! ## Forbidden characters -/

/-- Each character of a text that is no part of a line end is in one of its lines. -/
theorem exists_mem_splitLines {c : Char} (hfeed : c ≠ '\n') (hreturn : c ≠ '\r')
    {current cs : List Char} (h : c ∈ current ∨ c ∈ cs) :
    ∃ line ∈ Text.splitLines current cs, c ∈ line := by
  -- `current` is the line that has begun, from its last character to its first
  induction cs generalizing current with
  | nil =>
    have hmem : c ∈ current := h.resolve_right (by simp)
    have hne : current.isEmpty = false := by
      cases current with
      | nil => cases hmem
      | cons => rfl
    exact ⟨current.reverse, by simp [Text.splitLines, hne], List.mem_reverse.mpr hmem⟩
  | cons d ds ih =>
    rw [Text.splitLines]
    by_cases hd : d = '\n'
    · subst hd
      rw [if_pos (by rfl)]
      rcases h with hcurrent | hrest
      · refine ⟨_, List.mem_cons_self, List.mem_reverse.mpr ?_⟩
        cases current with
        | nil => cases hcurrent
        | cons e es =>
          rw [Text.dropReturn.eq_def]
          split
          · rename_i heq
            obtain ⟨rfl, rfl⟩ := List.cons.inj heq
            exact (List.mem_cons.mp hcurrent).resolve_left hreturn
          · exact hcurrent
      · obtain ⟨line, hline, hmem⟩ :=
          @ih [] (.inr ((List.mem_cons.mp hrest).resolve_left hfeed))
        exact ⟨line, List.mem_cons_of_mem _ hline, hmem⟩
    · rw [if_neg (by simpa using hd)]
      refine ih ?_
      rcases h with hcurrent | hrest
      · exact .inl (List.mem_cons_of_mem _ hcurrent)
      rcases List.mem_cons.mp hrest with rfl | hrest
      · exact .inl List.mem_cons_self
      · exact .inr hrest

/-- The lines of a comment hold its characters, but for line ends, and a number sign. -/
theorem mem_commentText {comment : String} {c : Char} (hc : c ∈ comment.toList) (hfeed : c ≠ '\n')
    (hreturn : c ≠ '\r') (indent : Nat) :
    c ∈ (commentText indent comment).toList ∧ '#' ∈ (commentText indent comment).toList := by
  obtain ⟨line, hline, hmem⟩ := @exists_mem_splitLines c hfeed hreturn [] comment.toList (.inr hc)
  have hlines : String.ofList line ∈ Text.lines comment := List.mem_map_of_mem hline
  obtain ⟨body, hbody, htext⟩ := Yaml.commentLine_toList indent (.ofList line)
  rw [commentText, String.toList_join]
  simp only [List.mem_flatMap, List.mem_map]
  refine ⟨⟨_, ⟨_, hlines, rfl⟩, ?_⟩, ⟨_, ⟨_, hlines, rfl⟩, ?_⟩⟩ <;> rw [htext]
  · rcases hbody with rfl | rfl <;> simp [hmem]
  · simp

/-- A text that shows a comment with a forbidden character is unreadable. -/
theorem ShowsComment.ofText_eq {comment text : String} (h : ShowsComment comment text) {c : Char}
    (hc : c ∈ comment.toList) (hforbidden : isAllowed c = false) :
    Value.ofText? text = .error (.yaml (.at {} .forbiddenCharacter)) := by
  have hne {d : Char} (hd : isAllowed d) : c ≠ d := by
    rintro rfl
    rw [hforbidden] at hd
    cases hd
  obtain ⟨indent, hlines⟩ := h
  obtain ⟨hmem, hhash⟩ := mem_commentText hc (hne (by rfl)) (hne (by rfl)) indent
  have hwhite : Text.isAllWhite text = false :=
    List.all_eq_false.mpr ⟨'#', hlines hhash, by decide⟩
  have hallowed : text.toList.all isAllowed = false :=
    List.all_eq_false.mpr ⟨c, hlines hmem, by simp [hforbidden]⟩
  have hsource : Yaml.Source.ofString? text = .error (.at {} .forbiddenCharacter) := by
    rw [Yaml.Source.ofString?, hallowed]
    rfl
  rw [Value.ofText_eq hwhite, Tree.ofText?, hsource]
  rfl

/-! ## Main statement -/

/-- The fault, wherever in the text it is. -/
def ParseFault.withoutPlace : ParseFault → ParseFault
  | .yaml (.at _ problem) => .yaml (.at {} problem)
  | fault => fault

/-- What a stream is written as denotes the same without its comments, if these are inert: the same
value, or the same fault wherever it is. A comment with a character that YAML forbids makes the text
unreadable. -/
theorem ofText_withoutComments {events : List Event} {text : String}
    (h : blockText events = .ok text) :
    (Quiet events → ∃ bare, blockText (withoutComments events) = .ok bare ∧
        (Value.ofText? text).mapError ParseFault.withoutPlace =
          (Value.ofText? bare).mapError ParseFault.withoutPlace) ∧
      ∀ comment, .comment comment ∈ events → (∃ c ∈ comment.toList, isAllowed c = false) →
        Value.ofText? text = .error (.yaml (.at {} .forbiddenCharacter)) := by
  obtain ⟨stream, hvalid, rfl, rfl⟩ := EventStream.exists_of_blockText h
  refine ⟨fun hquiet => ?_, fun comment hcomment ⟨c, hc, hforbidden⟩ =>
    (EventStream.showsComment hcomment).ofText_eq hc hforbidden⟩
  have hbare := EventStream.valid_bare hvalid
  have hsilent : Quiet stream.bare.events := by
    rw [stream.events_bare]
    exact fun comment hcomment => hquiet comment (List.mem_of_mem_filter hcomment)
  refine ⟨stream.bare.text, ?_, ?_⟩
  · rw [← stream.events_bare]
    exact stream.bare.blockText_events hbare
  -- the two texts have the same tree, so they differ only in the place of a problem in it
  cases hnode : stream.node with
  | none =>
    have hnone : stream.bare.node = none := by simp [EventStream.bare, hnode]
    rw [EventStream.ofText_text_none hvalid hquiet hnode,
      EventStream.ofText_text_none hbare hsilent hnone]
  | some node =>
    have hsome : stream.bare.node = some node.bare := by simp [EventStream.bare, hnode]
    obtain ⟨htree, hproblem⟩ := EventStream.ofText_text hvalid hquiet hnode
    obtain ⟨htree', hproblem'⟩ := EventStream.ofText_text hbare hsilent hsome
    rw [node.tree?_bare] at htree' hproblem'
    cases hread : node.tree? Yaml.maxDepth with
    | ok tree => rw [htree tree hread, htree' tree hread]
    | error problem =>
      obtain ⟨mark, hmark⟩ := hproblem problem hread
      obtain ⟨mark', hmark'⟩ := hproblem' problem hread
      rw [hmark, hmark']
      rfl

/-- A stream with comments around and inside its node. One goes on after a carriage return with a
comment of its own. -/
def commentedStream : List Event :=
  [.streamStart, .comment "fleet\r  # of ships", .mappingStart, .comment "",
    .scalar "crew" .str, .comment "all hands\nbut one", .sequenceStart, .comment "none yet",
    .sequenceEnd, .scalar "" .null, .scalar "" .null, .mappingEnd, .comment "end", .streamEnd]

theorem ofText_withoutComments_commentedStream :
    blockText commentedStream = .ok ("# fleet\r  # of ships\ncrew: []\n  # none yet\n" ++
        "  # all hands\n  # but one\nnull:\n# end\n") ∧
      Quiet commentedStream ∧
      blockText (withoutComments commentedStream) = .ok "crew: []\nnull:\n" ∧
      (Value.ofText? ("# fleet\r  # of ships\ncrew: []\n  # none yet\n" ++
          "  # all hands\n  # but one\nnull:\n# end\n")).mapError ParseFault.withoutPlace =
        (Value.ofText? "crew: []\nnull:\n").mapError ParseFault.withoutPlace := by
  have hquiet : Quiet commentedStream := by
    simp only [commentedStream, Quiet, List.mem_cons, List.not_mem_nil, Event.comment.injEq,
      reduceCtorEq, false_or, or_false, forall_eq_or_imp, forall_eq]
    decide
  have htext : blockText commentedStream = .ok ("# fleet\r  # of ships\ncrew: []\n  # none yet\n" ++
      "  # all hands\n  # but one\nnull:\n# end\n") := by
    decide +kernel
  obtain ⟨bare, hbare, hsame⟩ := (ofText_withoutComments htext).1 hquiet
  have hshort : blockText (withoutComments commentedStream) = .ok "crew: []\nnull:\n" := by
    decide +kernel
  obtain rfl := Except.ok.inj (hbare.symm.trans hshort)
  exact ⟨htext, hquiet, hshort, hsame⟩

/-- A control character in a comment makes a text unreadable that is readable without it. -/
theorem ofText_commented_ne :
    ∃ text bare,
      blockText [.streamStart, .comment "(int): a\u0001b", .scalar "5" .int, .streamEnd] =
        .ok text ∧
      blockText (withoutComments
        [.streamStart, .comment "(int): a\u0001b", .scalar "5" .int, .streamEnd]) = .ok bare ∧
      Value.ofText? text = .error (.yaml (.at {} .forbiddenCharacter)) ∧
      Value.ofText? bare = .ok (.int 5) := by
  let stream : EventStream := ⟨[], some (.scalar "5" .int), []⟩
  have hvalid : stream.Valid := by
    rintro node ⟨⟩
    exact show (readInt64? "5").isSome by decide
  have hquiet : Quiet stream.events := by simp [stream, Quiet, EventStream.events,
    StreamNode.events, commentEvents]
  have hcomment : ShowsComment "(int): a\u0001b" "# (int): a\u0001b\n5\n" :=
    ⟨0, by decide +kernel⟩
  have hmem : '\u0001' ∈ "(int): a\u0001b".toList := by decide
  refine ⟨"# (int): a\u0001b\n5\n", stream.text, by decide +kernel,
    stream.blockText_events hvalid, hcomment.ofText_eq hmem (by decide), ?_⟩
  exact (EventStream.ofText_text hvalid hquiet rfl).1 (.int 5) rfl

end ConfigSchema
