import ConfigSchema.Proofs.Event.Scalar
import ConfigSchema.Value.Events

/-!
# Written streams read again

A stream whose comments are inert is written as a text that is lexed into the tokens of its node,
wherever the comments stand. So the text denotes the tree of the node.

## Main definitions

- `Quiet` — the comments among some events are inert
- `Allowed` — the characters of a text are allowed in YAML
- `Value.ofTree?` — the value that a tree denotes

## Main statements

- `StreamNode.comes`, `StreamEntries.reads`, `StreamItems.reads` — the lexer in the text of a node
- `EventStream.tokenize_text` — the tokens of a text
- `EventStream.agrees_ofText` — the tree of a text
- `EventStream.ofText_text` — the value of a text
-/

namespace ConfigSchema

open Yaml
open Yaml.Lexer (Within Reached Comes Reads opener opened)

/-! ## Quiet events -/

/-- All comments among the events are inert. -/
def Quiet (events : List Event) : Prop := ∀ text, Event.comment text ∈ events → Inert text

@[simp] theorem quiet_append (before after : List Event) :
    Quiet (before ++ after) ↔ Quiet before ∧ Quiet after := by
  simp only [Quiet, List.mem_append]
  exact ⟨fun h => ⟨fun text ht => h text (.inl ht), fun text ht => h text (.inr ht)⟩,
    fun h text ht => ht.elim (h.1 text) (h.2 text)⟩

@[simp] theorem quiet_cons (event : Event) (events : List Event) :
    Quiet (event :: events) ↔ (∀ text, event = .comment text → Inert text) ∧ Quiet events := by
  simp only [Quiet, List.mem_cons]
  exact ⟨fun h => ⟨fun text ht => h text (.inl ht.symm), fun text ht => h text (.inr ht)⟩,
    fun h text ht => ht.elim (fun heq => h.1 text heq.symm) (h.2 text)⟩

@[simp] theorem quiet_commentEvents (texts : List String) :
    Quiet (commentEvents texts) ↔ ∀ text ∈ texts, Inert text := by
  simp [Quiet, commentEvents]

/-! ## Characters -/

/-- All characters of the text are allowed in YAML. -/
def Allowed (text : String) : Prop := ∀ c ∈ text.toList, isAllowed c

@[simp] theorem allowed_append (before after : String) :
    Allowed (before ++ after) ↔ Allowed before ∧ Allowed after := by
  simp only [Allowed, String.toList_append, List.mem_append]
  exact ⟨fun h => ⟨fun c hc => h c (.inl hc), fun c hc => h c (.inr hc)⟩,
    fun h c hc => hc.elim (h.1 c) (h.2 c)⟩

theorem allowed_join {texts : List String} (h : ∀ text ∈ texts, Allowed text) :
    Allowed (.join texts) := by
  intro c hc
  rw [String.toList_join] at hc
  obtain ⟨text, htext, hc⟩ := List.mem_flatMap.mp hc
  exact h text htext c hc

@[simp] theorem allowed_spaces (count : Nat) : Allowed (spaces count) := by
  intro c hc
  rw [spaces, String.toList_ofList] at hc
  obtain rfl := List.eq_of_mem_replicate hc
  rfl

@[simp] theorem allowed_newline : Allowed "\n" := by simp [Allowed, isAllowed]

theorem allowed_commentText {text : String} (h : Inert text) (indent : Nat) :
    Allowed (commentText indent text) := by
  refine allowed_join fun line hline => ?_
  obtain ⟨body, hbody, rfl⟩ := List.mem_map.mp hline
  have hbody : Allowed body := List.all_eq_true.mp (h body hbody).1
  have hsign : Allowed "#" ∧ Allowed "# " := by simp [Allowed, isAllowed]
  split <;> simp [hbody, hsign]

theorem allowed_commentsText {texts : List String} (h : ∀ text ∈ texts, Inert text)
    (indent : Nat) : Allowed (commentsText indent texts) := by
  refine allowed_join fun lines hlines => ?_
  obtain ⟨text, htext, rfl⟩ := List.mem_map.mp hlines
  exact allowed_commentText (h text htext) indent

theorem allowed_written {text : String} {tag : ScalarTag} (h : tag.Accepts text) :
    Allowed (written text tag) := by
  by_cases htag : tag = .null
  · subst htag
    have hnull : written text .null = "" := rfl
    simp [hnull, Allowed]
  · exact fun c hc => ((scalarText_written h htag).inline c hc).2

theorem allowed_keyText {text : String} {tag : ScalarTag} (h : tag.Accepts text) (indent : Nat) :
    Allowed (BlockText.keyText indent (writtenKey text tag)) := by
  have hkey : Allowed (writtenKey text tag) :=
    fun c hc => ((scalarText_writtenKey h).inline c hc).2
  have hsigns : Allowed "? " ∧ Allowed ":" := by simp [Allowed, isAllowed]
  rw [BlockText.keyText]
  split <;> simp [hkey, hsigns]

theorem allowed_scalar {text : String} {tag : ScalarTag} (h : tag.Accepts text) :
    Allowed (if (written text tag).isEmpty then "" else " " ++ written text tag) ∧
      Allowed (if (written text tag).isEmpty then "null" else written text tag) := by
  have hwritten := allowed_written h
  have hparts : Allowed "" ∧ Allowed " " ∧ Allowed "null" := by simp [Allowed, isAllowed]
  split <;> simp [hwritten, hparts]

mutual

/-- All characters of the text of a node are allowed. -/
theorem StreamNode.allowed_text (node : StreamNode) (h : node.Valid) (hquiet : Quiet node.events)
    (indent : Nat) {pending : List String} (hpending : ∀ text ∈ pending, Inert text) :
    Allowed (node.text indent pending) := by
  have hcomments := allowed_commentsText hpending (indent + indentStep)
  match node with
  | .scalar text tag =>
    rw [StreamNode.text, allowed_append, allowed_append]
    exact ⟨⟨(allowed_scalar h).1, allowed_newline⟩, hcomments⟩
  | .mapping entries crossed =>
    simp only [StreamNode.events, List.cons_append, quiet_cons, quiet_append] at hquiet
    rw [StreamNode.text]
    cases hinside : entries.inside? with
    | some inside =>
      have hempty : Allowed " \x7b\x7d\n" := by simp [Allowed, isAllowed]
      rw [entries.events_of_inside hinside, quiet_commentEvents] at hquiet
      simp [hempty, hcomments, allowed_commentsText hquiet.2.1]
    | none => simp [hcomments, entries.allowed_text h.1 hquiet.2.1]
  | .sequence items crossed =>
    simp only [StreamNode.events, List.cons_append, quiet_cons, quiet_append] at hquiet
    rw [StreamNode.text]
    cases hinside : items.inside? with
    | some inside =>
      have hempty : Allowed " []\n" := by simp [Allowed, isAllowed]
      rw [items.events_of_inside hinside, quiet_commentEvents] at hquiet
      simp [hempty, hcomments, allowed_commentsText hquiet.2.1]
    | none => simp [hcomments, items.allowed_text h.1 hquiet.2.1]

theorem StreamEntries.allowed_text (entries : StreamEntries) (h : entries.Valid)
    (hquiet : Quiet entries.events) (indent : Nat) : Allowed (entries.text indent) := by
  match entries with
  | .done => simp [StreamEntries.text, Allowed]
  | .comment text rest =>
    simp only [StreamEntries.events, quiet_cons] at hquiet
    simp [StreamEntries.text, allowed_commentText (hquiet.1 text rfl),
      rest.allowed_text h hquiet.2]
  | .entry key tag comments value rest =>
    simp only [StreamEntries.events, List.cons_append, quiet_cons, quiet_append,
      quiet_commentEvents] at hquiet
    obtain ⟨-, ⟨hcomments, hvalue⟩, hrest⟩ := hquiet
    simp [StreamEntries.text, allowed_keyText h.1, value.allowed_text h.2.1 hvalue indent hcomments,
      rest.allowed_text h.2.2 hrest]

theorem StreamItems.allowed_text (items : StreamItems) (h : items.Valid)
    (hquiet : Quiet items.events) (indent : Nat) : Allowed (items.text indent) := by
  match items with
  | .done => simp [StreamItems.text, Allowed]
  | .comment text rest =>
    simp only [StreamItems.events, quiet_cons] at hquiet
    simp [StreamItems.text, allowed_commentText (hquiet.1 text rfl), rest.allowed_text h hquiet.2]
  | .item value rest =>
    have hdash : Allowed "-" := by simp [Allowed, isAllowed]
    simp only [StreamItems.events, quiet_append] at hquiet
    simp [StreamItems.text, hdash, value.allowed_text h.1 hquiet.1 indent,
      rest.allowed_text h.2 hquiet.2]

end

theorem StreamNode.allowed_rootText (node : StreamNode) (h : node.Valid)
    (hquiet : Quiet node.events) : Allowed node.rootText := by
  cases node with
  | scalar text tag => exact (allowed_append _ _).mpr ⟨(allowed_scalar h).2, allowed_newline⟩
  | mapping entries crossed =>
    simp only [events, List.cons_append, quiet_cons, quiet_append] at hquiet
    rw [rootText]
    cases hinside : entries.inside? with
    | some inside =>
      have hempty : Allowed "\x7b\x7d\n" := by simp [Allowed, isAllowed]
      rw [entries.events_of_inside hinside, quiet_commentEvents] at hquiet
      simp [hempty, allowed_commentsText hquiet.2.1]
    | none => exact entries.allowed_text h.1 hquiet.2.1 0
  | sequence items crossed =>
    simp only [events, List.cons_append, quiet_cons, quiet_append] at hquiet
    rw [rootText]
    cases hinside : items.inside? with
    | some inside =>
      have hempty : Allowed "[]\n" := by simp [Allowed, isAllowed]
      rw [items.events_of_inside hinside, quiet_commentEvents] at hquiet
      simp [hempty, allowed_commentsText hquiet.2.1]
    | none => exact items.allowed_text h.1 hquiet.2.1 0

/-! ## Lines -/

/-- Inert comments before the first sign of the lines are passed over. -/
theorem reached_comments {finish : Mark} {texts : List String} {indent : Nat} {rest : List Char}
    {kinds : List TokenKind} {indents : List Nat} {column : Nat} {lexer : Lexer}
    (h : Reached finish ((commentsText indent texts).toList ++ rest) kinds indents column lexer)
    (hinert : ∀ text ∈ texts, Inert text) : Reached finish rest kinds indents column lexer :=
  h.pass fun _ hstart => passed_commentsText hinert indent hstart rest

/-- A comment ends a scalar before it, or is no line at all. -/
theorem dedents_commentText {margin : Nat} {rest : List Char} (h : Dedents margin rest)
    (indent : Nat) (text : String) : Dedents margin ((commentText indent text).toList ++ rest) := by
  rw [commentText, String.toList_join]
  cases Text.lines text with
  | nil => exact h
  | cons line lines =>
    obtain ⟨body, -, hline⟩ := commentLine_toList indent line
    rw [List.map_cons, List.flatMap_cons, hline]
    exact ⟨indent, _, by simp only [List.append_assoc]; rfl,
      .inr ⟨'#', _, rfl, rfl, rfl, .inl rfl⟩⟩

theorem dedents_commentsText {margin : Nat} {rest : List Char} (h : Dedents margin rest)
    (indent : Nat) (texts : List String) :
    Dedents margin ((commentsText indent texts).toList ++ rest) := by
  rw [commentsText, String.toList_join]
  induction texts with
  | nil => exact h
  | cons text texts ih =>
    rw [List.map_cons, List.flatMap_cons, List.append_assoc]
    exact dedents_commentText ih indent text

/-- Entries go on with a comment, or with a key at their column. -/
theorem StreamEntries.dedents (entries : StreamEntries) (h : entries.Valid) {column : Nat}
    {rest : List Char} (hrest : Dedents (column + 1) rest) :
    Dedents (column + 1) ((entries.text column).toList ++ rest) := by
  cases entries with
  | done => exact hrest
  | comment text more =>
    rw [StreamEntries.text, String.toList_append, List.append_assoc]
    exact dedents_commentText (more.dedents h hrest) column text
  | entry key tag comments value more =>
    rw [StreamEntries.text, String.toList_append, String.toList_append, List.append_assoc,
      List.append_assoc, BlockText.keyText]
    generalize (value.text column comments).toList ++ ((more.text column).toList ++ rest) = after
    obtain ⟨c, ds, hkey, hsign⟩ := (scalarText_writtenKey h.1).eq_cons
    have hline : endsLine c = false := ((scalarText_writtenKey h.1).inline c (by simp [hkey])).1
    have hblank : isBlank c = false := by
      simp only [startsSign, isBlankOrBreak, Bool.not_eq_true', Bool.or_eq_false_iff] at hsign
      exact hsign.1.1.1
    split
    · exact ⟨column, c :: (ds ++ ':' :: after), by simp [spaces, hkey],
        .inr ⟨c, _, rfl, hblank, hline, .inr (Nat.lt_succ_self column)⟩⟩
    · exact ⟨column, '?' :: ' ' :: ((writtenKey key tag).toList ++ '\n' ::
        (List.replicate column ' ' ++ ':' :: after)), by simp [spaces],
        .inr ⟨'?', _, rfl, rfl, rfl, .inr (Nat.lt_succ_self column)⟩⟩

/-- Items go on with a comment, or with a dash at their column. -/
theorem StreamItems.dedents (items : StreamItems) {column : Nat} {rest : List Char}
    (hrest : Dedents (column + 1) rest) :
    Dedents (column + 1) ((items.text column).toList ++ rest) := by
  cases items with
  | done => exact hrest
  | comment text more =>
    rw [StreamItems.text, String.toList_append, List.append_assoc]
    exact dedents_commentText (more.dedents hrest) column text
  | item value more =>
    exact ⟨column, '-' :: ((value.text column []).toList ++ ((more.text column).toList ++ rest)),
      by simp [StreamItems.text, spaces],
      .inr ⟨'-', _, rfl, rfl, rfl, .inr (Nat.lt_succ_self column)⟩⟩

/-- After its sign, a node goes on with a space or on the next line. -/
theorem StreamNode.startsBlank_text (node : StreamNode) (indent : Nat) (pending : List String)
    (rest : List Char) : startsBlankText ((node.text indent pending).toList ++ rest) := by
  cases node with
  | scalar text tag =>
    rw [StreamNode.text]
    split <;> simp [startsBlankText, isBlankOrBreak, isBlank, isBreak]
  | mapping entries crossed =>
    rw [StreamNode.text]
    split <;> simp [startsBlankText, isBlankOrBreak, isBlank, isBreak]
  | sequence items crossed =>
    rw [StreamNode.text]
    split <;> simp [startsBlankText, isBlankOrBreak, isBlank, isBreak]

/-! ## Nodes -/

section

variable {finish mark : Mark} {rest : List Char} {kinds : List TokenKind} {indents : List Nat}
  {keyAllowed : Bool} {lexer : Lexer}

/-- A block collection at the column of the innermost open block is this block. -/
theorem opener_of_head {column : Nat} (hopen : indents.head? = some column) (kind : TokenKind) :
    opener indents column kind = [] ∧ opened indents column = indents := by
  rw [opener, opened, if_pos hopen, if_pos hopen]
  exact ⟨rfl, rfl⟩

/-- A block collection at a column right of all open blocks is a new one. -/
theorem opener_of_lt {indent column : Nat} (hopen : indents.head? = some indent)
    (hcolumn : indent < column) (kind : TokenKind) :
    opener indents column kind = [kind] ∧ opened indents column = column :: indents := by
  have hne : indents.head? ≠ some column := by
    rw [hopen]
    simp
    omega
  rw [opener, opened, if_neg hne, if_neg hne]
  exact ⟨rfl, rfl⟩

/-- A scalar after its sign is read, and the lines after it are reached. -/
theorem comes_scalar {text : String} {tag : ScalarTag} (h : tag.Accepts text) {indent : Nat}
    {pending : List String} (hpending : ∀ text ∈ pending, Inert text)
    (hwithin : Within finish mark
      (((StreamNode.scalar text tag).text indent pending).toList ++ rest) kinds indents keyAllowed
      lexer)
    (hopen : indents.head? = some indent) (hcolumn : indent ≤ mark.column)
    (hdedents : Dedents (indent + 1) rest) :
    ∃ last, Comes finish lexer last ∧
      Reached finish rest (kinds ++ (StreamNode.scalar text tag).kinds) indents indent last := by
  have hlines := dedents_commentsText hdedents (indent + indentStep) pending
  rw [StreamNode.text] at hwithin
  rw [StreamNode.kinds]
  by_cases htag : tag = .null
  · subst htag
    have hwritten : written text .null = "" := rfl
    rw [if_pos rfl, List.append_nil]
    rw [hwritten] at hwithin
    obtain ⟨last, hcomes, hreached⟩ := Within.comes_newline (by simpa using hwithin) indent
    exact ⟨last, hcomes, reached_comments hreached hpending⟩
  · have hscalar := scalarText_written h htag
    obtain ⟨c, ds, hcs, -⟩ := hscalar.eq_cons
    have hne : (written text tag).isEmpty = false := by
      rw [Bool.eq_false_iff, ne_eq, String.isEmpty_iff, ← String.toList_eq_nil_iff, hcs]
      simp
    rw [hne] at hwithin
    rw [if_neg htag]
    obtain ⟨last, hcomes, hreached⟩ := Within.comes_scalar hscalar (by simpa using hwithin)
      (by simpa [hopen] using hcolumn) (by simpa [hopen] using hlines) indent
    exact ⟨last, hcomes, reached_comments hreached hpending⟩

mutual

/-- The lexer reads a node after its sign, and comes to the lines after the node. -/
theorem StreamNode.comes (node : StreamNode) (h : node.Valid) (hquiet : Quiet node.events)
    {indent : Nat} {pending : List String} (hpending : ∀ text ∈ pending, Inert text)
    {mark : Mark} {rest : List Char} {kinds : List TokenKind} {indents : List Nat}
    {keyAllowed : Bool} {lexer : Lexer}
    (hwithin : Within finish mark ((node.text indent pending).toList ++ rest) kinds indents
      keyAllowed lexer)
    (hopen : indents.head? = some indent) (hcolumn : indent ≤ mark.column)
    (hdedents : Dedents (indent + 1) rest) :
    ∃ last, Comes finish lexer last ∧
      Reached finish rest (kinds ++ node.kinds) indents indent last := by
  have hinner : indent < indent + indentStep := Nat.lt_add_of_pos_right (by decide)
  have hcolumns : ∀ i ∈ indents.head?, i ≤ mark.column := by simpa [hopen] using hcolumn
  have hinners : ∀ i ∈ indents.head?, i ≤ indent + indentStep := by simp [hopen]
  have hlines : Dedents (indent + indentStep + 1) rest := hdedents.mono (by omega)
  match node with
  | .scalar text tag => exact comes_scalar h hpending hwithin hopen hcolumn hdedents
  | .mapping entries crossed =>
    simp only [StreamNode.events, List.cons_append, quiet_cons, quiet_append] at hquiet
    rw [StreamNode.text] at hwithin
    rw [StreamNode.kinds]
    cases hinside : entries.inside? with
    | some inside =>
      rw [hinside] at hwithin
      rw [entries.events_of_inside hinside, quiet_commentEvents] at hquiet
      obtain ⟨last, hcomes, hreached⟩ := Within.comes_brackets .mapping
        (by simpa using hwithin) hcolumns indent
      exact ⟨last, hcomes, reached_comments (reached_comments hreached hquiet.2.1) hpending⟩
    | none =>
      rw [hinside] at hwithin
      obtain ⟨first, hcomes, hreached⟩ := Within.comes_newline (by simpa using hwithin)
        (indent + indentStep)
      obtain ⟨last, hreads, hend⟩ := entries.reads h.1 hquiet.2.1
        (reached_comments hreached hpending) (.inl hinside) hinners hlines
      obtain ⟨hopener, hopened⟩ := opener_of_lt hopen hinner .blockMappingStart
      rw [hopener, hopened] at hend
      exact ⟨last, hcomes.trans hreads, by simpa using hend.close hinner⟩
  | .sequence items crossed =>
    simp only [StreamNode.events, List.cons_append, quiet_cons, quiet_append] at hquiet
    rw [StreamNode.text] at hwithin
    rw [StreamNode.kinds]
    cases hinside : items.inside? with
    | some inside =>
      rw [hinside] at hwithin
      rw [items.events_of_inside hinside, quiet_commentEvents] at hquiet
      obtain ⟨last, hcomes, hreached⟩ := Within.comes_brackets .sequence
        (by simpa using hwithin) hcolumns indent
      exact ⟨last, hcomes, reached_comments (reached_comments hreached hquiet.2.1) hpending⟩
    | none =>
      rw [hinside] at hwithin
      obtain ⟨first, hcomes, hreached⟩ := Within.comes_newline (by simpa using hwithin)
        (indent + indentStep)
      obtain ⟨last, hreads, hend⟩ := items.reads h.1 hquiet.2.1
        (reached_comments hreached hpending) (.inl hinside) hinners hlines
      obtain ⟨hopener, hopened⟩ := opener_of_lt hopen hinner .blockSequenceStart
      rw [hopener, hopened] at hend
      exact ⟨last, hcomes.trans hreads, by simpa using hend.close hinner⟩

/-- The lexer reads entries, and comes to the lines after them. -/
theorem StreamEntries.reads (entries : StreamEntries) (h : entries.Valid)
    (hquiet : Quiet entries.events) {column : Nat} {rest : List Char} {kinds : List TokenKind}
    {indents : List Nat} {lexer : Lexer}
    (hreached : Reached finish ((entries.text column).toList ++ rest) kinds indents column lexer)
    (hopen : entries.inside? = none ∨ indents.head? = some column)
    (hcolumn : ∀ i ∈ indents.head?, i ≤ column) (hdedents : Dedents (column + 1) rest) :
    ∃ last, Reads finish lexer last ∧
      Reached finish rest (kinds ++ opener indents column .blockMappingStart ++ entries.kinds)
        (opened indents column) column last := by
  cases entries with
  | done =>
    obtain ⟨hopener, hopened⟩ := opener_of_head
      (hopen.resolve_left (by simp [StreamEntries.inside?])) .blockMappingStart
    rw [hopener, hopened]
    exact ⟨lexer, .refl lexer, by simpa [StreamEntries.kinds, StreamEntries.text] using hreached⟩
  | comment text more =>
    simp only [StreamEntries.events, quiet_cons] at hquiet
    rw [StreamEntries.text, String.toList_append, List.append_assoc] at hreached
    have hmore := hreached.pass fun _ hstart =>
      passed_commentText (hquiet.1 text rfl) column hstart _
    exact more.reads h hquiet.2 hmore (hopen.imp_left Option.map_eq_none_iff.mp) hcolumn hdedents
  | entry key tag comments value more =>
    simp only [StreamEntries.events, List.cons_append, quiet_cons, quiet_append,
      quiet_commentEvents] at hquiet
    obtain ⟨-, ⟨hcomments, hvalue⟩, hmore⟩ := hquiet
    rw [StreamEntries.text, String.toList_append, String.toList_append, List.append_assoc,
      List.append_assoc] at hreached
    have hhead := Lexer.head_opened indents column
    -- the key
    obtain ⟨after, mark, keyAllowed, hpasses, hmark, hwithin⟩ := hreached.passes_keyText
      (scalarText_writtenKey h.1) (value.startsBlank_text column comments _) hcolumn
    -- the value
    obtain ⟨mid, hcomes, hmid⟩ := value.comes h.2.1 hvalue hcomments hwithin hhead
      (Nat.le_of_lt hmark) (more.dedents h.2.2 hdedents)
    -- the other entries
    obtain ⟨last, hreads, hlast⟩ := more.reads h.2.2 hmore hmid (.inr hhead) (by simp [hhead])
      hdedents
    refine ⟨last, (hpasses.reads hcomes).trans hreads, ?_⟩
    obtain ⟨hopener, hopened⟩ := opener_of_head hhead .blockMappingStart
    rw [hopener, hopened] at hlast
    simpa [StreamEntries.kinds] using hlast

/-- The lexer reads items, and comes to the lines after them. -/
theorem StreamItems.reads (items : StreamItems) (h : items.Valid)
    (hquiet : Quiet items.events) {column : Nat} {rest : List Char} {kinds : List TokenKind}
    {indents : List Nat} {lexer : Lexer}
    (hreached : Reached finish ((items.text column).toList ++ rest) kinds indents column lexer)
    (hopen : items.inside? = none ∨ indents.head? = some column)
    (hcolumn : ∀ i ∈ indents.head?, i ≤ column) (hdedents : Dedents (column + 1) rest) :
    ∃ last, Reads finish lexer last ∧
      Reached finish rest (kinds ++ opener indents column .blockSequenceStart ++ items.kinds)
        (opened indents column) column last := by
  cases items with
  | done =>
    obtain ⟨hopener, hopened⟩ := opener_of_head
      (hopen.resolve_left (by simp [StreamItems.inside?])) .blockSequenceStart
    rw [hopener, hopened]
    exact ⟨lexer, .refl lexer, by simpa [StreamItems.kinds, StreamItems.text] using hreached⟩
  | comment text more =>
    simp only [StreamItems.events, quiet_cons] at hquiet
    rw [StreamItems.text, String.toList_append, List.append_assoc] at hreached
    have hmore := hreached.pass fun _ hstart =>
      passed_commentText (hquiet.1 text rfl) column hstart _
    exact more.reads h hquiet.2 hmore (hopen.imp_left Option.map_eq_none_iff.mp) hcolumn hdedents
  | item value more =>
    simp only [StreamItems.events, quiet_append] at hquiet
    have hhead := Lexer.head_opened indents column
    have htext : ((StreamItems.item value more).text column).toList ++ rest =
        List.replicate column ' ' ++ '-' ::
          ((value.text column []).toList ++ ((more.text column).toList ++ rest)) := by
      simp [StreamItems.text, spaces]
    rw [htext] at hreached
    -- the dash
    obtain ⟨after, mark, hact, hmark, hwithin⟩ :=
      hreached.act_dash (value.startsBlank_text column [] _) hcolumn
    -- the value
    obtain ⟨mid, hcomes, hmid⟩ := value.comes h.1 hquiet.1 (by simp) hwithin hhead
      (Nat.le_of_lt hmark) (more.dedents hdedents)
    -- the other items
    obtain ⟨last, hreads, hlast⟩ := more.reads h.2 hquiet.2 hmid (.inr hhead) (by simp [hhead])
      hdedents
    refine ⟨last, (Reads.of_act hact hcomes).trans hreads, ?_⟩
    obtain ⟨hopener, hopened⟩ := opener_of_head hhead .blockSequenceStart
    rw [hopener, hopened] at hlast
    simpa [StreamItems.kinds] using hlast

end

/-! ## Documents -/

theorem rootText_scalar {text : String} {tag : ScalarTag} (h : tag.Accepts text) :
    (StreamNode.scalar text tag).rootText = writtenKey text tag ++ "\n" := by
  rw [StreamNode.rootText, writtenKey]
  by_cases htag : tag = .null
  · subst htag
    rfl
  · obtain ⟨c, ds, hcs, -⟩ := (scalarText_written h htag).eq_cons
    have hne : (written text tag).isEmpty = false := by
      rw [Bool.eq_false_iff, ne_eq, String.isEmpty_iff, ← String.toList_eq_nil_iff, hcs]
      simp
    rw [hne, if_neg Bool.false_ne_true, if_neg (by simpa using htag)]

/-- A collection at the start of a line that is empty is read, and the next line is reached. -/
theorem reads_rootBrackets {left right : Char} {start stop : TokenKind}
    (h : Lexer.Brackets left right start stop)
    (hreached : Reached finish (left :: right :: '\n' :: rest) [] [] 0 lexer) :
    ∃ last, Reads finish lexer last ∧ Reached finish rest [start, stop] [] 0 last := by
  obtain ⟨mark, closed, -, hact, -, hat⟩ := @Reached.act_eq finish (right :: '\n' :: rest) [] [] 0
    lexer 0 left h.startsSign.1 h.not_endsLine.1 hreached (Nat.le_refl 0) (by simp)
  obtain ⟨after, last, hbracket, hcomes, hlast⟩ := Lexer.act_brackets h hat (by simp) 0
  rw [hat.act_eq h.not_endsLine.1 (by simp), ← hact] at hbracket
  exact ⟨last, .of_act hbracket hcomes, hlast⟩

/-- The lexer reads the node of a document, and comes to the lines after it. -/
theorem StreamNode.reads_root (node : StreamNode) (h : node.Valid) (hquiet : Quiet node.events)
    (hreached : Reached finish (node.rootText.toList ++ rest) [] [] 0 lexer)
    (hdedents : Dedents 0 rest) :
    ∃ last kinds indents, Reads finish lexer last ∧ Reached finish rest kinds indents 0 last ∧
      kinds ++ indents.map (fun _ => .blockEnd) = node.rootKinds := by
  have hlines : Dedents (0 + 1) rest := hdedents.mono (Nat.zero_le _)
  cases node with
  | scalar text tag =>
    have hscalar := scalarText_writtenKey h
    obtain ⟨c, ds, hcs, hsign⟩ := hscalar.eq_cons
    have hline : endsLine c = false := (hscalar.inline c (by simp [hcs])).1
    have htext : (scalar text tag).rootText.toList ++ rest =
        (writtenKey text tag).toList ++ '\n' :: rest := by
      rw [rootText_scalar h]
      simp
    rw [htext, hcs] at hreached
    obtain ⟨mark, closed, -, hact, -, hat⟩ := @Reached.act_eq finish (ds ++ '\n' :: rest) [] [] 0
      lexer 0 c hsign hline hreached (Nat.le_refl 0) (by simp)
    have hsame := hat.act_eq hline (by simp)
    rw [← List.cons_append, ← hcs] at hat
    obtain ⟨after, last, hread, hcomes, hlast⟩ :=
      Lexer.act_scalar hscalar hat (by simp) hdedents 0
    rw [hsame, ← hact] at hread
    exact ⟨last, _, [], .of_act hread hcomes, hlast, by simp [rootKinds]⟩
  | mapping entries crossed =>
    simp only [events, List.cons_append, quiet_cons, quiet_append] at hquiet
    rw [rootText] at hreached
    rw [rootKinds, kinds]
    · cases hinside : entries.inside? with
      | some inside =>
        rw [hinside] at hreached
        rw [entries.events_of_inside hinside, quiet_commentEvents] at hquiet
        obtain ⟨last, hreads, hlast⟩ := reads_rootBrackets .mapping (by simpa using hreached)
        exact ⟨last, _, [], hreads, reached_comments hlast hquiet.2.1, by simp⟩
      | none =>
        rw [hinside] at hreached
        obtain ⟨last, hreads, hlast⟩ := entries.reads h.1 hquiet.2.1 hreached (.inl hinside)
          (by simp) hlines
        exact ⟨last, _, _, hreads, hlast, by simp [opener, opened]⟩
    · simp
  | sequence items crossed =>
    simp only [events, List.cons_append, quiet_cons, quiet_append] at hquiet
    rw [rootText] at hreached
    rw [rootKinds, kinds]
    · cases hinside : items.inside? with
      | some inside =>
        rw [hinside] at hreached
        rw [items.events_of_inside hinside, quiet_commentEvents] at hquiet
        obtain ⟨last, hreads, hlast⟩ := reads_rootBrackets .sequence (by simpa using hreached)
        exact ⟨last, _, [], hreads, reached_comments hlast hquiet.2.1, by simp⟩
      | none =>
        rw [hinside] at hreached
        obtain ⟨last, hreads, hlast⟩ := items.reads h.1 hquiet.2.1 hreached (.inl hinside)
          (by simp) hlines
        exact ⟨last, _, _, hreads, hlast, by simp [opener, opened]⟩
    · simp

end

/-! ## White space -/

theorem not_isAllWhite_keyText {text : String} {tag : ScalarTag} (h : tag.Accepts text)
    (indent : Nat) : Text.isAllWhite (BlockText.keyText indent (writtenKey text tag)) = false := by
  rw [BlockText.keyText]
  split <;> simp [not_isAllWhite_writtenKey h]

theorem StreamEntries.not_isAllWhite {entries : StreamEntries} (h : entries.Valid)
    (hinside : entries.inside? = none) (indent : Nat) :
    Text.isAllWhite (entries.text indent) = false := by
  match entries with
  | .comment text rest =>
    have hrest := @not_isAllWhite rest h (Option.map_eq_none_iff.mp hinside) indent
    simp [StreamEntries.text, hrest]
  | .entry key tag comments value rest =>
    simp [StreamEntries.text, not_isAllWhite_keyText h.1]

theorem StreamItems.not_isAllWhite {items : StreamItems} (hinside : items.inside? = none)
    (indent : Nat) : Text.isAllWhite (items.text indent) = false := by
  match items with
  | .comment text rest =>
    have hrest := @not_isAllWhite rest (Option.map_eq_none_iff.mp hinside) indent
    simp [StreamItems.text, hrest]
  | .item value rest =>
    have hdash : Text.isAllWhite "-" = false := by decide
    simp [StreamItems.text, hdash]

theorem StreamNode.not_isAllWhite_rootText (node : StreamNode) (h : node.Valid) :
    Text.isAllWhite node.rootText = false := by
  cases node with
  | scalar text tag => simp [rootText_scalar h, not_isAllWhite_writtenKey h]
  | mapping entries crossed =>
    have hempty : Text.isAllWhite "\x7b\x7d\n" = false := by decide
    rw [rootText]
    split
    · simp [hempty]
    · rename_i hinside
      exact StreamEntries.not_isAllWhite h.1 hinside 0
  | sequence items crossed =>
    have hempty : Text.isAllWhite "[]\n" = false := by decide
    rw [rootText]
    split
    · simp [hempty]
    · rename_i hinside
      exact StreamItems.not_isAllWhite hinside 0

/-! ## Values -/

/-- The value that a tree denotes, by way of its events. -/
def Value.ofTree? (tree : Tree) : Except ParseFault Value := do
  ofEvents? (.streamStart :: (← tree.events) ++ [.streamEnd])

/-- A text that is not white space alone denotes the value of its tree. -/
theorem Value.ofText_eq {text : String} (h : Text.isAllWhite text = false) :
    Value.ofText? text = ((Tree.ofText? text).mapError .yaml).bind Value.ofTree? := by
  rw [Value.ofText?, readEvents, h, if_neg Bool.false_ne_true]
  cases Tree.ofText? text with
  | error fault => rfl
  | ok tree =>
    show (tree.events >>= _) >>= _ = Value.ofTree? tree
    rw [Value.ofTree?]
    cases tree.events <;> rfl

/-! ## Streams -/

namespace EventStream

variable {stream : EventStream}

theorem allowed_text (h : stream.Valid) (hquiet : Quiet stream.events) : Allowed stream.text := by
  obtain ⟨early, node?, late⟩ := stream
  simp only [events, List.cons_append, quiet_cons, quiet_append, quiet_commentEvents] at hquiet
  obtain ⟨-, ⟨⟨hearly, hnode⟩, hlate⟩, -⟩ := hquiet
  rw [text, allowed_append, allowed_append]
  refine ⟨⟨allowed_commentsText hearly 0, ?_⟩, allowed_commentsText hlate 0⟩
  cases node? with
  | none => simp [Allowed]
  | some node => exact node.allowed_rootText (h node rfl) hnode

/-- The tokens of the text of a stream are those of its node. -/
theorem tokenize_text (h : stream.Valid) (hquiet : Quiet stream.events) :
    ∃ source tokens, Source.ofString? stream.text = .ok source ∧
      tokenize source = (tokens, none) ∧
      tokens.map Token.kind = stream.node.elim [] StreamNode.rootKinds ++ [.streamEnd] := by
  have hallowed := allowed_text h hquiet
  obtain ⟨early, node?, late⟩ := stream
  simp only [events, List.cons_append, quiet_cons, quiet_append, quiet_commentEvents] at hquiet
  obtain ⟨-, ⟨⟨hearly, hnode⟩, hlate⟩, -⟩ := hquiet
  let chars := (EventStream.mk early node? late).text.toList
  have hsource : Source.ofString? (EventStream.mk early node? late).text =
      .ok ⟨(place {} chars).1, (place {} chars).2⟩ := by
    rw [Source.ofString?, if_pos (List.all_eq_true.mpr hallowed)]
  have hchars : chars = (commentsText 0 early).toList ++
      ((node?.elim "" StreamNode.rootText).toList ++ ((commentsText 0 late).toList ++ [])) := by
    simp [chars, text]
  have hdedents : Dedents 0 ((commentsText 0 late).toList ++ []) :=
    dedents_commentsText ⟨0, [], rfl, .inl rfl⟩ 0 late
  obtain ⟨first, hcomes, hfirst⟩ := Lexer.comes_start chars 0
  nth_rewrite 2 [hchars] at hfirst
  have hbody := reached_comments hfirst hearly
  cases node? with
  | none =>
    obtain ⟨tokens, htokens, hkinds⟩ :=
      Lexer.Reached.tokenize_eq (reached_comments hbody hlate) hcomes
    exact ⟨_, tokens, hsource, htokens, hkinds⟩
  | some node =>
    obtain ⟨last, kinds, indents, hreads, hlast, hroot⟩ :=
      node.reads_root (h node rfl) hnode hbody hdedents
    obtain ⟨tokens, htokens, hkinds⟩ :=
      Lexer.Reached.tokenize_eq (reached_comments hlast hlate) (hcomes.trans hreads)
    exact ⟨_, tokens, hsource, htokens, by rw [hkinds, hroot]; rfl⟩

/-- The tree that a stream denotes. -/
def tree? (stream : EventStream) : Except Problem Tree :=
  stream.node.elim (.ok .null) (StreamNode.tree? maxDepth)

/-- The text of a stream denotes the tree of its node. -/
theorem agrees_ofText (h : stream.Valid) (hquiet : Quiet stream.events) :
    Agrees (Tree.ofText? stream.text) stream.tree? id := by
  obtain ⟨source, tokens, hsource, htokens, hkinds⟩ := tokenize_text h hquiet
  rw [tree?]
  cases hnode : stream.node with
  | none =>
    rw [hnode] at hkinds
    exact ofText_of_streamEnd hsource htokens hkinds
  | some node =>
    rw [hnode] at hkinds
    exact node.agrees_ofText hsource htokens hkinds

/-- The text of a stream denotes the value of the tree of its node. A problem in the tree is a fault
at some place of the text. -/
theorem ofText_text {node : StreamNode} (h : stream.Valid) (hquiet : Quiet stream.events)
    (hnode : stream.node = some node) :
    (∀ tree, node.tree? maxDepth = .ok tree → Value.ofText? stream.text = Value.ofTree? tree) ∧
      ∀ problem, node.tree? maxDepth = .error problem →
        ∃ mark, Value.ofText? stream.text = .error (.yaml (.at mark problem)) := by
  have hagrees := agrees_ofText h hquiet
  have hroot := node.not_isAllWhite_rootText (h node hnode)
  have hwhite : Text.isAllWhite stream.text = false := by simp [text, hnode, hroot]
  rw [tree?, hnode, Option.elim_some] at hagrees
  rw [Value.ofText_eq hwhite]
  constructor
  · intro tree htree
    rw [htree] at hagrees
    rw [show Tree.ofText? stream.text = .ok tree from hagrees]
    rfl
  · intro problem hproblem
    rw [hproblem] at hagrees
    obtain ⟨mark, hread⟩ := hagrees
    exact ⟨mark, by rw [hread]; rfl⟩

/-- The text of a stream without a node denotes null. -/
theorem ofText_text_none (h : stream.Valid) (hquiet : Quiet stream.events)
    (hnode : stream.node = none) : Value.ofText? stream.text = .ok .null := by
  cases hwhite : Text.isAllWhite stream.text with
  | true =>
    rw [Value.ofText?, readEvents, hwhite]
    rfl
  | false =>
    have hagrees := agrees_ofText h hquiet
    rw [tree?, hnode, Option.elim_none] at hagrees
    rw [Value.ofText_eq hwhite, show Tree.ofText? stream.text = .ok .null from hagrees]
    rfl

end EventStream

end ConfigSchema
