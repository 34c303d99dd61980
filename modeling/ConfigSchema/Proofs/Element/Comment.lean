import ConfigSchema.Proofs.Element.Dumped
import ConfigSchema.Proofs.Text.Wrap

/-!
# Comments in documents

Comments explain the data of a document and have no part in it: how they look, and whether they are
there at all, changes nothing else. Each comment is that of a part of the schema, in lines of words.

## Main definitions

- `Element.Explains` — a comment is that of a part of a schema

## Main statements

- `Element.withoutComments_events_congr` — how comments look makes no difference to the other events
- `Element.Explains.of_mem_document` — comments are those of parts of the schema
- `Element.isSpaced_of_mem_comment` — the lines of a comment are words with single spaces between
  them
- `Element.document_comments` — the same of the streams of documents
-/

namespace ConfigSchema

/-- The events of a value hold no comment. -/
theorem Value.comment_not_mem_events (value : Value) (text : String) :
    .comment text ∉ value.events := by
  intro hmem
  have hplain := List.filter_eq_self.mp (Value.withoutComments_events value) _ hmem
  cases hplain

theorem Value.comment_not_mem_fieldEvents (entries : List (String × Value)) (text : String) :
    .comment text ∉ Value.fieldEvents entries := by
  intro hmem
  have hplain := List.filter_eq_self.mp (Value.withoutComments_fieldEvents entries) _ hmem
  cases hplain

namespace Element

variable {opts other : DumpOptions}

/-! ## What is not a comment -/

/-- The same sign before events and the same one after them keep that all but comments is the
same. -/
theorem withoutComments_enclosed_congr {first last : Event} (hfirst : first.isComment = false)
    {as as' bs bs' : List Event} (has : withoutComments as = withoutComments as')
    (hbs : withoutComments bs = withoutComments bs') :
    withoutComments (first :: as ++ bs ++ [last]) =
      withoutComments (first :: as' ++ bs' ++ [last]) := by
  simp only [withoutComments_append, withoutComments_cons hfirst, has, hbs]

theorem withoutComments_commentEvents_congr (element : Element) (showName : Bool) :
    withoutComments (element.commentEvents opts showName) =
      withoutComments (element.commentEvents other showName) := by
  rw [withoutComments_commentEvents, withoutComments_commentEvents]

theorem isOmitted_congr (h : opts.omitDefaults = other.omitDefaults) (element : Element)
    (value? : Option Value) : element.isOmitted opts value? = element.isOmitted other value? := by
  rw [isOmitted, isOmitted, h]

theorem withoutComments_childEvents_congr (h : opts.omitDefaults = other.omitDefaults)
    {children : List Element}
    (hchildren : ∀ child ∈ children, ∀ value?,
      withoutComments (child.events opts value?) = withoutComments (child.events other value?))
    (fields : OrderedMap Value) :
    withoutComments (childEvents children opts (some fields)) =
      withoutComments (childEvents children other (some fields)) := by
  induction children with
  | nil => rfl
  | cons child rest ih =>
    obtain ⟨hchild, hrest⟩ := List.forall_mem_cons.mp hchildren
    rw [childEvents, childEvents, withoutComments_append, withoutComments_append, ih hrest,
      isOmitted_congr h]
    congr 1
    split
    · rfl
    · rw [withoutComments_append, withoutComments_append,
        child.withoutComments_commentEvents_congr, Event.str, withoutComments_cons rfl,
        withoutComments_cons rfl, hchild]

/-- How comments look, and whether there are any, makes no difference to the other events. -/
theorem withoutComments_events_congr (h : opts.omitDefaults = other.omitDefaults)
    (element : Element) (value? : Option Value) :
    withoutComments (element.events opts value?) =
      withoutComments (element.events other value?) := by
  induction element using Element.induction generalizing value? with
  | scalar info type => rfl
  | code info => rfl
  | keyed info children extraKeys ih =>
    rw [events_keyed, events_keyed]
    cases info.writtenFields? value? with
    | none => rfl
    | some fields =>
      exact withoutComments_enclosed_congr rfl (withoutComments_childEvents_congr h ih fields) rfl
  | category info item minEntries defaultKey? ih =>
    rw [events_category, events_category]
    cases info.writtenFields? value? with
    | none => rfl
    | some fields =>
      refine withoutComments_enclosed_congr rfl (item.withoutComments_commentEvents_congr _) ?_
      rw [withoutComments_flatMap, withoutComments_flatMap]
      refine List.flatMap_congr fun entry _ => ?_
      rw [Event.str, withoutComments_cons rfl, withoutComments_cons rfl, ih]
  | list info item minLength? maxLength? ih =>
    rw [events_list, events_list]
    cases info.writtenItems? value? with
    | none => rfl
    | some values =>
      refine withoutComments_enclosed_congr rfl (item.withoutComments_commentEvents_congr _) ?_
      rw [withoutComments_flatMap, withoutComments_flatMap]
      exact List.flatMap_congr fun inner? _ => ih inner?
  | derived info resolve => rfl

theorem withoutComments_document_congr (h : opts.omitDefaults = other.omitDefaults)
    (schema : Element) (value? : Option Value) :
    withoutComments (schema.document opts value?) =
      withoutComments (schema.document other value?) := by
  refine withoutComments_enclosed_congr rfl ?_ (withoutComments_events_congr h schema value?)
  split
  · exact schema.withoutComments_commentEvents_congr true
  · rfl

/-! ## Comments -/

/-- The comment is that of a part of the schema. -/
def Explains (schema : Element) (opts : DumpOptions) (text : String) : Prop :=
  ∃ (part : Element) (showName : Bool),
    part.Within schema ∧ text = part.comment opts showName

theorem Explains.of_part {inner schema : Element} {text : String} (hinner : inner ∈ schema.parts)
    (h : inner.Explains opts text) : schema.Explains opts text := by
  obtain ⟨part, showName, hwithin, htext⟩ := h
  exact ⟨part, showName, .part hinner hwithin, htext⟩

theorem Explains.of_mem_commentEvents {element : Element} {showName : Bool} {text : String}
    (h : .comment text ∈ element.commentEvents opts showName) : element.Explains opts text := by
  rw [commentEvents] at h
  split at h
  · obtain rfl := Event.comment.inj (List.mem_singleton.mp h)
    exact ⟨element, showName, .self, rfl⟩
  · cases h

/-- The signs around events are no comments. -/
theorem comment_mem_of_enclosed {first last : Event} {as bs : List Event} {text : String}
    (h : .comment text ∈ first :: as ++ bs ++ [last]) (hfirst : first.isComment = false)
    (hlast : last.isComment = false) : .comment text ∈ as ∨ .comment text ∈ bs := by
  rcases List.mem_append.mp h with hinner | hend
  · rcases List.mem_cons.mp hinner with rfl | hinner
    · cases hfirst
    · exact List.mem_append.mp hinner
  · rw [← List.mem_singleton.mp hend] at hlast
    cases hlast

theorem comment_not_mem_codeEvents (value? : Option Value) (text : String) :
    .comment text ∉ codeEvents value? := by
  match value? with
  | none => simp [codeEvents]
  | some (.str block) => simp [codeEvents, Event.str]
  | some .null | some (.bool _) | some (.int _) | some (.float _) | some (.seq _)
  | some (.map _) => exact Value.comment_not_mem_events _ text

theorem exists_of_comment_mem_childEvents {children : List Element} {text : String}
    {fields : OrderedMap Value} (h : .comment text ∈ childEvents children opts (some fields)) :
    ∃ child ∈ children, child.Explains opts text ∨
      ∃ value?, .comment text ∈ child.events opts value? := by
  induction children with
  | nil => cases h
  | cons child rest ih =>
    rw [childEvents, List.mem_append] at h
    rcases h with hentry | hrest
    · refine ⟨child, List.mem_cons_self, ?_⟩
      split at hentry
      · cases hentry
      · rcases List.mem_append.mp hentry with hcomment | hvalue
        · exact .inl (.of_mem_commentEvents hcomment)
        · rcases List.mem_cons.mp hvalue with hkey | hvalue
          · cases hkey
          · exact .inr ⟨_, hvalue⟩
    · obtain ⟨inner, hinner, hcomment⟩ := ih hrest
      exact ⟨inner, List.mem_cons_of_mem _ hinner, hcomment⟩

/-- Comments among the events of a value are those of parts of the schema. -/
theorem Explains.of_mem_events {element : Element} {value? : Option Value} {text : String}
    (h : .comment text ∈ element.events opts value?) : element.Explains opts text := by
  induction element using Element.induction generalizing value? with
  | scalar info type => exact absurd h (Value.comment_not_mem_events _ text)
  | code info => exact absurd h (comment_not_mem_codeEvents _ text)
  | keyed info children extraKeys ih =>
    rw [events_keyed] at h
    split at h
    · rcases comment_mem_of_enclosed h rfl rfl with hchildren | hextra
      · obtain ⟨child, hchild, hcomment | ⟨value?, hvalue⟩⟩ :=
          exists_of_comment_mem_childEvents hchildren
        · exact .of_part hchild hcomment
        · exact .of_part hchild (ih child hchild hvalue)
      · exact absurd hextra (Value.comment_not_mem_fieldEvents _ text)
    · exact absurd h (Value.comment_not_mem_events _ text)
  | category info item minEntries defaultKey? ih =>
    have hitem : item ∈ (category info item minEntries defaultKey?).parts :=
      List.mem_singleton.mpr rfl
    rw [events_category] at h
    split at h
    · rcases comment_mem_of_enclosed h rfl rfl with hcomment | hentries
      · exact .of_part hitem (.of_mem_commentEvents hcomment)
      · obtain ⟨entry, -, hentry⟩ := List.mem_flatMap.mp hentries
        rcases List.mem_cons.mp hentry with hkey | hvalue
        · cases hkey
        · exact .of_part hitem (ih hvalue)
    · exact absurd h (Value.comment_not_mem_events _ text)
  | list info item minLength? maxLength? ih =>
    have hitem : item ∈ (list info item minLength? maxLength?).parts := List.mem_singleton.mpr rfl
    rw [events_list] at h
    split at h
    · rcases comment_mem_of_enclosed h rfl rfl with hcomment | hitems
      · exact .of_part hitem (.of_mem_commentEvents hcomment)
      · obtain ⟨inner?, -, hinner⟩ := List.mem_flatMap.mp hitems
        exact .of_part hitem (ih hinner)
    · exact absurd h (Value.comment_not_mem_events _ text)
  | derived info resolve => cases h

theorem Explains.of_mem_document {schema : Element} {value? : Option Value} {text : String}
    (h : .comment text ∈ schema.document opts value?) : schema.Explains opts text := by
  rw [document] at h
  rcases comment_mem_of_enclosed h rfl rfl with hroot | hevents
  · split at hroot
    · exact .of_mem_commentEvents hroot
    · cases hroot
  · exact .of_mem_events hevents

/-- The lines of a comment are words with single spaces between them. -/
theorem isSpaced_of_mem_comment (element : Element) (opts : DumpOptions) (showName : Bool)
    {line : List Char} (h : line ∈ (element.comment opts showName).toList.splitOn '\n') :
    Text.IsSpaced (.ofList line) := by
  rw [comment, Text.splitOn_newline] at h
  · obtain ⟨text, htext, rfl⟩ := List.mem_map.mp h
    obtain ⟨_, _, hwrapped⟩ := List.mem_flatMap.mp htext
    rw [String.ofList_toList]
    exact Text.isSpaced_of_mem_wrap hwrapped
  · -- the kind of the element stands in parentheses
    rw [List.flatMap_cons]
    refine List.append_ne_nil_of_left_ne_nil (Text.wrap_ne_nil (c := '(') ?_ (by decide) _) _
    simp
  · intro line hline
    obtain ⟨_, _, hwrapped⟩ := List.mem_flatMap.mp hline
    exact Text.isSpaced_of_mem_wrap hwrapped

/-! ## Documents -/

/-- Options that leave out the same entries give documents with the same events apart from comments,
and every comment is lines of words with single spaces between them. -/
theorem document_comments (schema : Element) (value? : Option Value) :
    (∀ opts other : DumpOptions, opts.omitDefaults = other.omitDefaults →
      withoutComments (schema.document opts value?) =
        withoutComments (schema.document other value?)) ∧
    ∀ (opts : DumpOptions) (text : String), .comment text ∈ schema.document opts value? →
      text ≠ "" ∧ ∀ line ∈ text.toList.splitOn '\n', line ≠ [] ∧ Text.IsSpaced (.ofList line) := by
  refine ⟨fun opts other h => withoutComments_document_congr h schema value?,
    fun opts text hmem => ?_⟩
  obtain ⟨part, showName, -, rfl⟩ := Explains.of_mem_document hmem
  have hlines : ∀ line ∈ (part.comment opts showName).toList.splitOn '\n', line ≠ [] ∧
      Text.IsSpaced (.ofList line) := by
    intro line hline
    have hspaced := isSpaced_of_mem_comment part opts showName hline
    refine ⟨?_, hspaced⟩
    rintro rfl
    exact hspaced.ne_empty rfl
  refine ⟨?_, hlines⟩
  intro hempty
  rw [hempty] at hlines
  exact (hlines [] (by simp)).1 rfl

/-- The documents of a fleet that is not valid, in narrow comments and without any. -/
theorem document_comments_fleet :
    let value := Value.map ⟨[("cars", .seq []), ("garages", .int 5)]⟩
    let text := "CARS(list of\nitems): Every\ncar in the\nfleet.\nMay contain 1 -\ninf items."
    withoutComments (Samples.fleet.document { commentWidth := 16 } (some value)) =
        withoutComments (Samples.fleet.document { showComments := false } (some value)) ∧
      .comment text ∈ Samples.fleet.document { commentWidth := 16 } (some value) ∧
      text ≠ "" ∧ ∀ line ∈ text.toList.splitOn '\n', line ≠ [] ∧ Text.IsSpaced (.ofList line) := by
  intro value text
  obtain ⟨hdata, hcomments⟩ := document_comments Samples.fleet (some value)
  have hmem : .comment text ∈ Samples.fleet.document { commentWidth := 16 } (some value) := by
    decide +kernel
  exact ⟨hdata _ _ rfl, hmem, hcomments _ _ hmem⟩

end Element

end ConfigSchema
