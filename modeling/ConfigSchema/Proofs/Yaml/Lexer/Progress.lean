import ConfigSchema.Proofs.Yaml.Length
import ConfigSchema.Proofs.Yaml.Lexer.Scalar
import Mathlib.Data.List.InsertIdx

/-!
# What one sign can do

Whatever the text is, a sign takes at least one glyph out of it and adds tokens that its glyphs
spell.

## Main definitions

- `Lexer.Emits` — the tokens that the next sign can be
- `Lexer.Grown` — tokens that have been added to others
- `Lexer.Advances` — what reading one sign can do to a lexer

## Main statements

- `Lexer.advances_dispatch` — this is all that reading one sign can do
-/

namespace ConfigSchema.Yaml.Lexer

/-! ## Tokens -/

/-- A scalar without quotes starts where the lexer stands, and is read as `text`. -/
structure PlainAt (lexer : Lexer) (text : String) : Prop where
  head : ∃ g gs, lexer.rest = g :: gs ∧ startsPlain lexer.inFlow g.char gs ∧
    (g.char = '-' → startsBlank gs = false)
  marker : startsDocumentMarker lexer.rest = false
  scan : ∃ crossed rest, scanPlain lexer.inFlow lexer.margin [] {} lexer.rest =
    .ok ⟨text, crossed, rest⟩

/-- The tokens that the next sign can be: scalars are no longer than the text, and the end of a
document or of the text comes only where it stands. -/
def Emits (lexer : Lexer) : TokenKind → Prop
  | .scalar text true => lexer.PlainAt text
  | .scalar text false => text.toList.length < lexer.rest.length
  | .streamEnd => lexer.rest = []
  | .documentEnd => startsMarker '.' lexer.rest
  | _ => True

/-- Tokens that have been added to others: at the end if `allowed` holds, and anywhere if they only
announce a key. -/
inductive Grown (allowed : TokenKind → Prop) (old : List Token) : List Token → Prop where
  | refl : Grown allowed old old
  | push {new : List Token} (h : Grown allowed old new) {token : Token}
      (hkind : allowed token.kind) : Grown allowed old (new ++ [token])
  | insert {new : List Token} (h : Grown allowed old new) (index : Nat) {token : Token}
      (hkind : token.kind = .key ∨ token.kind = .blockMappingStart) :
      Grown allowed old (new.insertIdx index token)

/-- What reading one sign can do: the text gets shorter or is at its end, and tokens are added. -/
structure Advances (lexer after : Lexer) : Prop where
  rest : after.ended = true ∧ after.rest = [] ∨ after.rest.length < lexer.rest.length
  held : Grown lexer.Emits lexer.held after.held
  nonempty : after.held ≠ []

variable {lexer next after : Lexer} {finish mark : Mark} {kind : TokenKind}

/-- Several tokens may be added one after another. -/
theorem Grown.append {allowed : TokenKind → Prop} {old new : List Token}
    (h : Grown allowed old new) {tokens : List Token}
    (hkinds : ∀ token ∈ tokens, allowed token.kind) : Grown allowed old (new ++ tokens) := by
  induction tokens generalizing new with
  | nil => rwa [List.append_nil]
  | cons token tokens ih =>
    rw [← List.singleton_append, ← List.append_assoc]
    exact ih (h.push (hkinds token (by simp))) fun other hother => hkinds other (by simp [hother])

/-! ## Parts of signs -/

/-- Giving up a possible key changes nothing else. -/
theorem exists_of_dropKey (h : lexer.dropKey mark = .ok next) :
    next = { lexer with key := none } := by
  obtain ⟨_, -, h⟩ := Outcome.bind_eq_ok.mp h
  exact (Except.ok.inj h).symm

/-- Opening and closing blocks only adds their tokens. -/
theorem grown_closeBlocks (lexer : Lexer) (mark : Mark) (isInner : Nat → Bool) :
    Grown lexer.Emits lexer.held (lexer.closeBlocks mark isInner).held := by
  rw [closeBlocks]
  split
  · exact .refl
  · refine Grown.refl.append fun token htoken => ?_
    obtain ⟨_, -, rfl⟩ := List.mem_map.mp htoken
    trivial

theorem grown_openBlock (opening : TokenKind) (h : lexer.Emits opening) (mark : Mark) :
    Grown lexer.Emits lexer.held (lexer.openBlock opening mark).held := by
  rw [openBlock]
  split
  · exact .push .refl h
  · exact .refl

theorem rest_closeBlocks (lexer : Lexer) (mark : Mark) (isInner : Nat → Bool) :
    (lexer.closeBlocks mark isInner).rest = lexer.rest := by
  rw [closeBlocks]
  split <;> rfl

theorem rest_openBlock (lexer : Lexer) (opening : TokenKind) (mark : Mark) :
    (lexer.openBlock opening mark).rest = lexer.rest := by
  rw [openBlock]
  split <;> rfl

/-- A sign of which some glyphs are passed shortens the text. -/
theorem length_drop_lt {gs : List Glyph} (hrest : gs ≠ []) {count : Nat} (hcount : 0 < count) :
    (gs.drop count).length < gs.length := by
  have hlength := List.length_pos_iff.mpr hrest
  rw [List.length_drop]
  omega

/-- A sign that only pushes its token, after what a scan leaves. -/
theorem Advances.of_push (kind : TokenKind) (hkind : lexer.Emits kind) {held : List Token}
    (hheld : Grown lexer.Emits lexer.held held) {pushed : Lexer}
    (hpushed : pushed.held = held ++ [⟨kind, mark⟩])
    (hrest : pushed.rest.length < lexer.rest.length) : Advances lexer pushed := by
  refine ⟨.inr hrest, ?_, ?_⟩
  · rw [hpushed]
    exact .push hheld hkind
  · simp [hpushed]

/-! ## Signs -/

theorem advances_fetchEnd (hrest : lexer.rest = []) (h : lexer.fetchEnd finish = .ok after) :
    Advances lexer after := by
  obtain ⟨next, hnext, h⟩ := Outcome.bind_eq_ok.mp h
  cases exists_of_dropKey hnext
  cases h
  refine ⟨.inl ⟨rfl, ?_⟩, .push (grown_closeBlocks lexer _ _) hrest, by simp [push]⟩
  exact (rest_closeBlocks lexer _ _).trans hrest

theorem advances_fetchDirective (hrest : lexer.rest ≠ [])
    (h : lexer.fetchDirective finish mark = .ok after) : Advances lexer after := by
  obtain ⟨next, hnext, h⟩ := Outcome.bind_eq_ok.mp h
  cases exists_of_dropKey hnext
  obtain ⟨⟨kind, rest⟩, hscan, h⟩ := Outcome.bind_eq_ok.mp h
  obtain ⟨hkind, hlength⟩ := leaves_scanDirective finish _ kind rest hscan
  rw [rest_closeBlocks] at hlength
  cases h
  have hemits : lexer.Emits kind := by
    cases kind with
    | versionDirective | tagDirective => trivial
    | _ => exact hkind.elim
  exact .of_push kind hemits (grown_closeBlocks lexer mark _) rfl
    (Nat.lt_of_le_of_lt hlength (length_drop_lt hrest Nat.one_pos))

theorem advances_fetchDocumentMarker (hrest : lexer.rest ≠ []) (hkind : lexer.Emits kind)
    (h : lexer.fetchDocumentMarker kind mark = .ok after) : Advances lexer after := by
  obtain ⟨next, hnext, h⟩ := Outcome.bind_eq_ok.mp h
  cases exists_of_dropKey hnext
  cases h
  refine .of_push kind hkind (grown_closeBlocks lexer mark _) rfl ?_
  show ((lexer.closeBlocks mark fun _ => true).rest.drop 3).length < _
  rw [rest_closeBlocks]
  exact length_drop_lt hrest (by decide)

theorem advances_fetchFlowStart (hrest : lexer.rest ≠ []) (hkind : lexer.Emits kind)
    (h : lexer.fetchFlowStart kind mark = .ok after) : Advances lexer after := by
  obtain ⟨next, hnext, h⟩ := Outcome.bind_eq_ok.mp h
  obtain ⟨key?, rfl⟩ := exists_of_saveKey hnext
  cases h
  exact .of_push kind hkind .refl rfl (length_drop_lt hrest Nat.one_pos)

theorem advances_fetchFlowEnd (hrest : lexer.rest ≠ []) (hkind : lexer.Emits kind)
    (h : lexer.fetchFlowEnd kind mark = .ok after) : Advances lexer after := by
  obtain ⟨next, hnext, h⟩ := Outcome.bind_eq_ok.mp h
  cases exists_of_dropKey hnext
  cases h
  exact .of_push kind hkind .refl rfl (length_drop_lt hrest Nat.one_pos)

theorem advances_fetchFlowEntry (hrest : lexer.rest ≠ [])
    (h : lexer.fetchFlowEntry mark = .ok after) : Advances lexer after := by
  obtain ⟨next, hnext, h⟩ := Outcome.bind_eq_ok.mp h
  cases exists_of_dropKey hnext
  cases h
  exact .of_push .flowEntry trivial .refl rfl (length_drop_lt hrest Nat.one_pos)

theorem advances_fetchBlockEntry (hrest : lexer.rest ≠ [])
    (h : lexer.fetchBlockEntry mark = .ok after) : Advances lexer after := by
  rw [fetchBlockEntry] at h
  split at h
  · cases h
  obtain ⟨next, hnext, h⟩ := Outcome.bind_eq_ok.mp h
  cases exists_of_dropKey hnext
  cases h
  refine .of_push .blockEntry trivial (grown_openBlock .blockSequenceStart trivial mark) rfl ?_
  show ((lexer.openBlock .blockSequenceStart mark).rest.drop 1).length < _
  rw [rest_openBlock]
  exact length_drop_lt hrest Nat.one_pos

theorem advances_fetchKey (hrest : lexer.rest ≠ [])
    (h : lexer.fetchKey mark = .ok after) : Advances lexer after := by
  rw [fetchKey] at h
  split at h
  · cases h
  obtain ⟨next, hnext, h⟩ := Outcome.bind_eq_ok.mp h
  cases exists_of_dropKey hnext
  cases h
  refine .of_push .key trivial (grown_openBlock .blockMappingStart trivial mark) rfl ?_
  show ((lexer.openBlock .blockMappingStart mark).rest.drop 1).length < _
  rw [rest_openBlock]
  exact length_drop_lt hrest Nat.one_pos

theorem advances_fetchValue (hrest : lexer.rest ≠ [])
    (h : lexer.fetchValue mark = .ok after) : Advances lexer after := by
  rw [fetchValue] at h
  split at h
  · rename_i key _
    cases h
    have hinserted : Grown lexer.Emits lexer.held (lexer.insertAt key.number .key key.mark).held :=
      .insert .refl _ (.inl rfl)
    have hopened : Grown lexer.Emits lexer.held
        ((lexer.insertAt key.number .key key.mark).openBlockAt key.number key.mark).held := by
      rw [openBlockAt]
      split
      · exact .insert hinserted _ (.inr rfl)
      · exact hinserted
    refine .of_push .value trivial hopened rfl ?_
    have hsame : ((lexer.insertAt key.number .key key.mark).openBlockAt key.number key.mark).rest =
        lexer.rest := by
      rw [openBlockAt]
      split <;> rfl
    show (((lexer.insertAt key.number .key key.mark).openBlockAt key.number key.mark).rest.drop
      1).length < _
    rw [hsame]
    exact length_drop_lt hrest Nat.one_pos
  · split at h
    · cases h
    cases h
    refine .of_push .value trivial (grown_openBlock .blockMappingStart trivial mark) rfl ?_
    show ((lexer.openBlock .blockMappingStart mark).rest.drop 1).length < _
    rw [rest_openBlock]
    exact length_drop_lt hrest Nat.one_pos

theorem advances_fetchAnchor {named : String → TokenKind} (hrest : lexer.rest ≠ [])
    (hkind : ∀ name, lexer.Emits (named name))
    (h : lexer.fetchAnchor named finish mark = .ok after) : Advances lexer after := by
  obtain ⟨next, hnext, h⟩ := Outcome.bind_eq_ok.mp h
  obtain ⟨key?, rfl⟩ := exists_of_saveKey hnext
  obtain ⟨⟨name, rest⟩, hscan, h⟩ := Outcome.bind_eq_ok.mp h
  have hlength := (leaves_scanAnchor finish _ name rest hscan).2
  cases h
  exact .of_push (named name) (hkind name) .refl rfl
    (Nat.lt_of_le_of_lt hlength (length_drop_lt hrest Nat.one_pos))

theorem advances_fetchTag (hrest : lexer.rest ≠ [])
    (h : lexer.fetchTag finish mark = .ok after) : Advances lexer after := by
  obtain ⟨next, hnext, h⟩ := Outcome.bind_eq_ok.mp h
  obtain ⟨key?, rfl⟩ := exists_of_saveKey hnext
  obtain ⟨⟨kind, rest⟩, hscan, h⟩ := Outcome.bind_eq_ok.mp h
  obtain ⟨⟨handle, suffix, rfl⟩, hlength⟩ := leaves_scanTag _ finish _ kind rest hscan
  cases h
  exact .of_push (.tag handle suffix) trivial .refl rfl
    (Nat.lt_of_le_of_lt hlength (length_drop_lt hrest Nat.one_pos))

theorem advances_fetchBlockScalar {literal : Bool} (hrest : lexer.rest ≠ [])
    (h : lexer.fetchBlockScalar literal finish mark = .ok after) : Advances lexer after := by
  obtain ⟨next, hnext, h⟩ := Outcome.bind_eq_ok.mp h
  cases exists_of_dropKey hnext
  obtain ⟨⟨text, rest⟩, hscan, h⟩ := Outcome.bind_eq_ok.mp h
  have hlength := length_scanBlock hscan
  have hdrop := length_drop_lt hrest Nat.one_pos
  dsimp only at hlength
  cases h
  have htext : text.toList.length < lexer.rest.length := by omega
  have hleft : rest.length < lexer.rest.length := by omega
  exact .of_push (.scalar text false) htext .refl rfl hleft

theorem advances_fetchQuoted {double : Bool} (hrest : lexer.rest ≠ [])
    (h : lexer.fetchQuoted double finish mark = .ok after) : Advances lexer after := by
  obtain ⟨next, hnext, h⟩ := Outcome.bind_eq_ok.mp h
  obtain ⟨key?, rfl⟩ := exists_of_saveKey hnext
  obtain ⟨⟨text, rest⟩, hscan, h⟩ := Outcome.bind_eq_ok.mp h
  have hlength := length_scanQuoted hscan
  have hdrop := length_drop_lt hrest Nat.one_pos
  simp only [List.length_nil, Gap.size_empty] at hlength
  cases h
  have htext : text.toList.length < lexer.rest.length := by omega
  have hleft : rest.length < lexer.rest.length := by omega
  exact .of_push (.scalar text false) htext .refl rfl hleft

/-- What starts a scalar without quotes is its first character. -/
theorem scanPlain_startsPlain {inFlow : Bool} {margin : Nat} {g : Glyph} {gs : List Glyph}
    (hstart : startsPlain inFlow g.char gs) {scan : PlainScan}
    (h : scanPlain inFlow margin [] {} (g :: gs) = .ok scan) :
    scanPlain inFlow margin [g.char] {} gs = .ok scan := by
  have hplain : isBlankOrBreak g.char = false ∧
      ((g.char == ':' && startsBlank gs) || (inFlow && isFlowIndicator g.char)) = false := by
    simp only [startsPlain, Bool.or_eq_true, Bool.not_eq_true', Bool.and_eq_true, beq_iff_eq,
      Bool.or_eq_false_iff] at hstart
    rcases hstart with (⟨hblank, hspecial⟩ | ⟨hdash, -⟩) | ⟨⟨hflow, hsign⟩, hblank⟩
    · simp at hspecial
      simp [hblank, hspecial, isFlowIndicator]
    · simp [hdash, isBlankOrBreak, isBlank, isBreak, isFlowIndicator]
    · rcases hsign with hsign | hsign <;>
        simp [hsign, hflow, hblank, isBlankOrBreak, isBlank, isBreak]
  obtain ⟨hblank, hstop⟩ := hplain
  simp only [isBlankOrBreak, Bool.or_eq_false_iff] at hblank
  rw [scanPlain, if_neg (by simp [hblank.1]), if_neg (by simp [hblank.2]),
    if_neg (by simp [Gap.isEmpty])] at h
  split at h
  · cases h
  · rw [if_neg (by simp [hstop])] at h
    exact h

theorem advances_fetchPlain {g : Glyph} {gs : List Glyph} (hrest : lexer.rest = g :: gs)
    (hstart : startsPlain lexer.inFlow g.char gs) (hdash : g.char = '-' → startsBlank gs = false)
    (hmarker : startsDocumentMarker lexer.rest = false)
    (h : lexer.fetchPlain mark = .ok after) : Advances lexer after := by
  obtain ⟨next, hnext, h⟩ := Outcome.bind_eq_ok.mp h
  obtain ⟨key?, rfl⟩ := exists_of_saveKey hnext
  obtain ⟨scan, hscan, h⟩ := Outcome.bind_eq_ok.mp h
  cases h
  have hplain : lexer.PlainAt scan.text :=
    ⟨⟨g, gs, hrest, hstart, hdash⟩, hmarker, scan.crossedLine, scan.rest, hscan⟩
  have hread : scanPlain lexer.inFlow lexer.margin [] {} (g :: gs) = .ok scan := by
    rw [← hrest]
    exact hscan
  have hleft : scan.rest.length < lexer.rest.length := by
    rw [hrest, List.length_cons]
    exact Nat.lt_succ_of_le (length_scanPlain (scanPlain_startsPlain hstart hread)).2
  exact .of_push (.scalar scan.text true) hplain .refl rfl hleft

/-- Either of two readings may be chosen. -/
theorem advances_ite {c : Prop} [Decidable c] {reading other : Except Fault Lexer}
    (hthen : c → reading = .ok after → Advances lexer after)
    (helse : ¬c → other = .ok after → Advances lexer after)
    (h : (if c then reading else other) = .ok after) : Advances lexer after := by
  split at h
  · exact hthen ‹c› h
  · exact helse ‹¬c› h

/-- Reading a sign takes glyphs out of the text and adds tokens that they spell. -/
theorem advances_dispatch (h : lexer.dispatch finish mark = .ok after) :
    Advances lexer after := by
  rw [dispatch] at h
  split at h
  · exact advances_fetchEnd ‹lexer.rest = []› h
  rename_i g gs hrest
  have hne : lexer.rest ≠ [] := by simp [hrest]
  revert h
  refine advances_ite (fun _ => advances_fetchDirective hne) fun _ => ?_
  refine advances_ite (fun _ => advances_fetchDocumentMarker hne trivial) fun hstart => ?_
  refine advances_ite (fun hend => advances_fetchDocumentMarker hne hend) fun hend => ?_
  refine advances_ite (fun _ => advances_fetchFlowStart hne trivial) fun _ => ?_
  refine advances_ite (fun _ => advances_fetchFlowStart hne trivial) fun _ => ?_
  refine advances_ite (fun _ => advances_fetchFlowEnd hne trivial) fun _ => ?_
  refine advances_ite (fun _ => advances_fetchFlowEnd hne trivial) fun _ => ?_
  refine advances_ite (fun _ => advances_fetchFlowEntry hne) fun _ => ?_
  refine advances_ite (fun _ => advances_fetchBlockEntry hne) fun hdash => ?_
  refine advances_ite (fun _ => advances_fetchKey hne) fun _ => ?_
  refine advances_ite (fun _ => advances_fetchValue hne) fun _ => ?_
  refine advances_ite (fun _ => advances_fetchAnchor hne fun _ => trivial) fun _ => ?_
  refine advances_ite (fun _ => advances_fetchAnchor hne fun _ => trivial) fun _ => ?_
  refine advances_ite (fun _ => advances_fetchTag hne) fun _ => ?_
  refine advances_ite (fun _ => advances_fetchBlockScalar hne) fun _ => ?_
  refine advances_ite (fun _ => advances_fetchBlockScalar hne) fun _ => ?_
  refine advances_ite (fun _ => advances_fetchQuoted hne) fun _ => ?_
  refine advances_ite (fun _ => advances_fetchQuoted hne) fun _ => ?_
  refine advances_ite (fun hplain => ?_) fun _ h => (by cases h)
  refine advances_fetchPlain hrest hplain (fun hg => ?_) ?_
  · simpa [hg] using hdash
  · simp [startsDocumentMarker, hstart, hend]

/-! ## From sign to sign -/

/-- Reading one sign: blanks are passed, blocks are closed, and then the sign is read. -/
theorem exists_of_fetch (h : lexer.fetch finish = .ok after) :
    ∃ at_ : Lexer,
      at_.rest = (toNextSign lexer.inFlow lexer.keyAllowed false lexer.rest).2 ∧
      Grown (· = .blockEnd) lexer.held at_.held ∧
      (lexer.outerKeys = [] → lexer.indents = [] → at_.outerKeys = [] ∧ at_.indents = []) ∧
      Advances at_ after := by
  obtain ⟨next, hnext, h⟩ := Outcome.bind_eq_ok.mp h
  have hadvances := advances_dispatch h
  rw [arrive] at hnext
  obtain ⟨outerKeys, houter, hnext⟩ := Outcome.bind_eq_ok.mp hnext
  obtain ⟨key?, -, hnext⟩ := Outcome.bind_eq_ok.mp hnext
  cases hnext
  refine ⟨_, rest_closeBlocks _ _ _, ?_, fun hkeys hindents => ?_, hadvances⟩
  · rw [closeBlocks]
    split
    · exact .refl
    · refine Grown.refl.append fun token htoken => ?_
      obtain ⟨_, -, rfl⟩ := List.mem_map.mp htoken
      rfl
  · dsimp only at houter
    rw [hkeys] at houter
    cases houter
    rw [closeBlocks]
    simp [inFlow, hindents]

/-- Passing blanks does not lengthen the text. -/
theorem length_toNextSign (inFlow keyAllowed : Bool) (gs : List Glyph) :
    (toNextSign inFlow keyAllowed false gs).2.length ≤ gs.length :=
  (toNextSign_suffix inFlow keyAllowed false gs).length_le

/-- A lexer takes at most one sign for each glyph, and one for the end of the text. -/
theorem Steps.count_le {count : Nat} {first last : Lexer} (h : Steps finish count first last) :
    count ≤ first.rest.length + 1 := by
  induction h with
  | refl => exact Nat.zero_le _
  | @cons count first next last _ hstep hrest ih =>
    obtain ⟨mid, hmid, hfetch⟩ := Outcome.bind_eq_ok.mp hstep
    obtain ⟨key, outerKeys, rfl⟩ := exists_of_expireKeys hmid
    obtain ⟨at_, hat, -, -, hadvances⟩ := exists_of_fetch hfetch
    have hpassed := length_toNextSign
      ({ first with key := key, outerKeys := outerKeys } : Lexer).inFlow first.keyAllowed first.rest
    have hlength : at_.rest.length ≤ first.rest.length := by
      rw [hat]
      exact hpassed
    rcases hadvances.rest with ⟨hended, -⟩ | hshorter
    · -- nothing is read after the end
      cases hrest with
      | refl => omega
      | cons hopen => rw [hended] at hopen; cases hopen
    · omega

/-! ## Scalars of a run -/

/-- The scalars that the next sign can be are no longer than the text. -/
theorem length_of_emits {text : String} {plain : Bool} (h : lexer.Emits (.scalar text plain)) :
    text.toList.length ≤ lexer.rest.length := by
  cases plain with
  | false => exact Nat.le_of_lt h
  | true =>
    obtain ⟨crossed, rest, hscan⟩ := h.scan
    have hlength := (length_scanPlain hscan).1
    simp only [List.length_nil, Gap.size_empty] at hlength
    omega

/-- A scalar among tokens that have been added was there, or was allowed. -/
theorem Grown.mem_scalar {allowed : TokenKind → Prop} {old new : List Token}
    (h : Grown allowed old new) {token : Token} {text : String} {plain : Bool}
    (hkind : token.kind = .scalar text plain) (hmem : token ∈ new) :
    token ∈ old ∨ allowed (.scalar text plain) := by
  induction h with
  | refl => exact .inl hmem
  | push h hother ih =>
    rcases List.mem_append.mp hmem with hmem | hmem
    · exact ih hmem
    · obtain rfl := List.mem_singleton.mp hmem
      exact .inr (hkind ▸ hother)
  | insert h index hother ih =>
    rcases List.mem_cons.mp (List.insertIdx_subset_cons index _ _ hmem) with rfl | hmem
    · rw [hkind] at hother
      rcases hother with hother | hother <;> cases hother
    · exact ih hmem

/-- A scalar of a run is held already, or no longer than the text to come. -/
theorem length_of_mem_run {fuel : Nat} {token : Token} {text : String} {plain : Bool}
    (hkind : token.kind = .scalar text plain) (hmem : token ∈ (run finish fuel lexer).1) :
    token ∈ lexer.held ∨ text.toList.length ≤ lexer.rest.length := by
  -- the text to come gets shorter with each sign, so that a bound on it lasts
  induction fuel generalizing lexer with
  | zero => cases hmem
  | succ fuel ih =>
    rw [run] at hmem
    split at hmem
    · cases hmem
    rename_i next hnext
    obtain ⟨key, outerKeys, rfl⟩ := exists_of_expireKeys hnext
    have hready {token : Token}
        (h : token ∈ ({ lexer with key := key, outerKeys := outerKeys } : Lexer).release.1) :
        token ∈ lexer.held := List.mem_of_mem_take h
    dsimp only at hmem
    split at hmem
    · exact .inl (hready hmem)
    split at hmem
    · exact .inl (hready hmem)
    rename_i after hfetch
    rcases List.mem_append.mp hmem with hmem | hmem
    · exact .inl (hready hmem)
    obtain ⟨at_, hat, hclosed, -, hadvances⟩ := exists_of_fetch hfetch
    have hlength : at_.rest.length ≤ lexer.rest.length := by
      rw [hat]
      exact length_toNextSign _ _ _
    rcases ih hmem with hheld | hshort
    · rcases hadvances.held.mem_scalar hkind hheld with hheld | hemits
      · rcases hclosed.mem_scalar hkind hheld with hheld | hother
        · exact .inl (List.mem_of_mem_drop hheld)
        · cases hother
      · exact .inr (Nat.le_trans (length_of_emits hemits) hlength)
    · rcases hadvances.rest with ⟨-, hnone⟩ | hshorter
      · exact .inr (Nat.le_trans hshort (by simp [hnone]))
      · exact .inr (by omega)

/-- The first sign of a text is read, and then the others. -/
theorem mem_tokenize {source : Source} {token : Token} (hmem : token ∈ (tokenize source).1) :
    ∃ after, fetch source.finish { rest := source.glyphs } = .ok after ∧
      token ∈ (run source.finish (source.glyphs.length + 1) after).1 := by
  rw [tokenize, run, expireKeys_of_none rfl rfl] at hmem
  dsimp only at hmem
  rw [if_neg (by simp [release])] at hmem
  have hstart : (release { rest := source.glyphs }).2 = { rest := source.glyphs } := rfl
  rw [hstart] at hmem
  split at hmem
  · cases hmem
  · exact ⟨_, ‹_›, by simpa [release] using hmem⟩

/-- A scalar that is as long as the whole text is the whole text, without quotes. -/
theorem plainAt_of_mem_tokenize {source : Source} {token : Token} {text : String} {plain : Bool}
    (hmem : token ∈ (tokenize source).1) (hkind : token.kind = .scalar text plain)
    (hlength : text.toList.length = source.glyphs.length) (hne : source.glyphs ≠ []) :
    PlainAt { rest := source.glyphs } text := by
  obtain ⟨after, hfetch, hmem⟩ := mem_tokenize hmem
  obtain ⟨at_, hat, hclosed, hstart, hadvances⟩ := exists_of_fetch hfetch
  obtain ⟨houter, hindents⟩ := hstart rfl rfl
  have hpos := List.length_pos_iff.mpr hne
  have hsuffix : at_.rest <:+ source.glyphs := hat ▸ toNextSign_suffix _ _ _ _
  have hle := hsuffix.length_le
  rcases length_of_mem_run hkind hmem with hheld | hshort
  · rcases hadvances.held.mem_scalar hkind hheld with hheld | hemits
    · rcases hclosed.mem_scalar hkind hheld with hheld | hother
      · cases hheld
      · cases hother
    · have hrest : at_.rest = source.glyphs :=
        hsuffix.eq_of_length (by have := length_of_emits hemits; omega)
      cases plain with
      | false =>
        have hshorter : text.toList.length < at_.rest.length := hemits
        omega
      | true =>
        obtain ⟨hhead, hmarker, hscan⟩ := hemits
        have hflow : at_.inFlow = false := by simp [inFlow, houter]
        have hmargin : at_.margin = 0 := by simp [margin, hindents]
        rw [hrest, hflow] at hhead
        rw [hrest] at hmarker
        rw [hrest, hflow, hmargin] at hscan
        exact ⟨hhead, hmarker, hscan⟩
  · rcases hadvances.rest with ⟨-, hnone⟩ | hshorter
    · rw [hnone] at hshort
      simp only [List.length_nil] at hshort
      omega
    · omega

end ConfigSchema.Yaml.Lexer
