import ConfigSchema.Proofs.Yaml.Lexer.Sign

/-!
# The lexer at scalars

A scalar of block text is read as one token, whether a colon or the end of its line follows.

## Main definitions

- `ScalarText` — how a scalar stands in block text, and the token that it is read as

## Main statements

- `Lexer.dispatch_colon` — a scalar before a colon
- `Lexer.dispatch_newline` — a scalar at the end of its line
-/

namespace ConfigSchema.Yaml

/-- The characters of a scalar without quotes or between double quotes, and its token. -/
inductive ScalarText : List Char → TokenKind → Prop where
  | plain {cs : List Char} (h : isPlainText cs) (hallowed : ∀ c ∈ cs, isAllowed c) :
      ScalarText cs (.scalar (.ofList cs) true)
  | quoted (text : String) : ScalarText (Text.yamlQuoted text).toList (.scalar text false)

/-- What a scalar without quotes starts with. -/
theorem exists_of_plainHead {cs : List Char} (h : plainHead cs) :
    ∃ c ds, cs = c :: ds ∧
      ((c = '-' ∨ c = '?' ∨ c = ':') ∧ startsBlankText ds = false ∨
        startsSign c ∧ "-?:,[]\x7b\x7d#&*!|>\x27\x22%@\x60".toList.contains c = false) := by
  match cs with
  | c :: ds =>
    refine ⟨c, ds, rfl, ?_⟩
    rw [plainHead] at h
    split at h
    · rename_i hc
      refine .inl ⟨by simpa [or_assoc] using hc, by simpa using h⟩
    · exact .inr (by simpa using h)

theorem startsSign_of_plainHead {c : Char} {cs : List Char} (h : plainHead (c :: cs)) :
    startsSign c := by
  obtain ⟨_, _, heq, hc⟩ := exists_of_plainHead h
  obtain ⟨rfl, rfl⟩ := List.cons.inj heq
  rcases hc with ⟨rfl | rfl | rfl, -⟩ | ⟨hsign, -⟩
  · rfl
  · rfl
  · rfl
  · exact hsign

namespace ScalarText

variable {cs : List Char} {kind : TokenKind}

/-- A scalar stays on its line and is allowed. -/
theorem inline (h : ScalarText cs kind) : ∀ c ∈ cs, endsLine c = false ∧ isAllowed c := by
  cases h with
  | plain h hallowed =>
    simp only [isPlainText, Bool.and_eq_true] at h
    exact fun c hc => ⟨endsLine_of_plainBody h.1.2 c hc, hallowed c hc⟩
  | quoted text => exact yamlQuoted_inline text

/-- A scalar starts with a sign. -/
theorem eq_cons (h : ScalarText cs kind) : ∃ c ds, cs = c :: ds ∧ startsSign c := by
  cases h with
  | plain h _ =>
    simp only [isPlainText, Bool.and_eq_true] at h
    obtain ⟨c, ds, rfl, -⟩ := exists_of_plainHead h.1.1
    exact ⟨c, ds, rfl, startsSign_of_plainHead h.1.1⟩
  | quoted text => exact ⟨_, _, toList_yamlQuoted text, rfl⟩

end ScalarText

/-- A scalar that is no marker is none before a colon or a line break. -/
theorem startsMarker_inlineGlyphs {cs : List Char} (h : isMarkerText cs = false) {x : Char}
    (hx : x = '-' ∨ x = '.') {g : Glyph} (hg : g.char = ':' ∨ g.char = '\n') (mark : Mark)
    (gs : List Glyph) : startsMarker x (inlineGlyphs mark cs ++ g :: gs) = false := by
  have hne : (g.char == x) = false := by
    rcases hg with hg | hg <;> rcases hx with rfl | rfl <;> rw [hg] <;> rfl
  match cs with
  | [] =>
    rcases gs with _ | ⟨first, _ | ⟨second, gs⟩⟩
    · rfl
    · rfl
    · simp [startsMarker, inlineGlyphs, hne]
  | [a] =>
    rcases gs with _ | ⟨first, gs⟩
    · rfl
    · simp [startsMarker, inlineGlyphs, hne]
  | [a, b] => simp [startsMarker, inlineGlyphs, hne]
  | a :: b :: c :: rest =>
    simp only [inlineGlyphs, List.cons_append, startsMarker]
    by_cases hchars : a = x ∧ b = x ∧ c = x
    · obtain ⟨rfl, rfl, rfl⟩ := hchars
      have hrest : startsBlankText rest = false := by
        rcases hx with rfl | rfl <;> simpa [isMarkerText] using h
      rw [startsBlank_inlineGlyphs hrest, Bool.and_false]
    · refine Bool.eq_false_iff.mpr fun htrue => hchars ?_
      simp only [Bool.and_eq_true, beq_iff_eq] at htrue
      exact ⟨htrue.1.1.1.2, htrue.1.1.2, htrue.1.2⟩

namespace Lexer

variable {finish mark : Mark} {cs ds : List Char} {kinds : List TokenKind} {indents : List Nat}
  {keyAllowed : Bool} {lexer : Lexer}

/-- What does not start with a blank starts with neither a space nor a tab. -/
theorem startsWith_of_not_startsBlank {gs : List Glyph} (h : startsBlank gs = false) :
    startsWith ' ' gs = false ∧ startsWith '\t' gs = false := by
  cases gs with
  | nil => cases h
  | cons g gs =>
    simp only [startsBlank, isBlankOrBreak, isBlank, Bool.or_eq_false_iff] at h
    exact h.1

/-- Where a plain scalar may start and no document does, one is read. -/
theorem dispatch_startsPlain {g : Glyph} {gs : List Glyph} (hrest : lexer.rest = g :: gs)
    (hflow : lexer.inFlow = false) (hstart : startsPlain false g.char gs)
    (hdash : g.char = '-' → startsBlank gs = false)
    (hmarker : startsDocumentMarker lexer.rest = false) (finish : Mark) :
    lexer.dispatch finish mark = lexer.fetchPlain mark := by
  simp only [startsDocumentMarker, Bool.or_eq_false_iff] at hmarker
  rw [dispatch, hmarker.1, hmarker.2, hflow, hrest]
  have hsaved := hstart
  simp only [startsPlain, Bool.or_eq_true, Bool.not_eq_true', Bool.and_eq_true, beq_iff_eq,
    Bool.or_eq_false_iff] at hstart
  rcases hstart with (⟨-, hspecial⟩ | ⟨hchar, -⟩) | ⟨⟨-, hchar⟩, hblank⟩
  · simp at hspecial
    simp [hsaved, hspecial]
  · rw [hchar] at hsaved
    simp [hsaved, hchar, hdash hchar]
  · rcases hchar with hchar | hchar <;> rw [hchar] at hsaved <;> simp [hsaved, hchar, hblank]

/-- A text without quotes is read as a plain scalar. -/
theorem dispatch_plain (h : isPlainText cs) {g : Glyph} {gs : List Glyph}
    (hg : g.char = ':' ∨ g.char = '\n') (hrest : lexer.rest = inlineGlyphs mark cs ++ g :: gs)
    (hflow : lexer.inFlow = false) (finish : Mark) :
    lexer.dispatch finish mark = lexer.fetchPlain mark := by
  simp only [isPlainText, Bool.and_eq_true, Bool.not_eq_true'] at h
  obtain ⟨⟨hhead, -⟩, hmarker⟩ := h
  have hmarkers : startsDocumentMarker lexer.rest = false := by
    rw [startsDocumentMarker, hrest, startsMarker_inlineGlyphs hmarker (.inl rfl) hg mark gs,
      startsMarker_inlineGlyphs hmarker (.inr rfl) hg mark gs]
    rfl
  obtain ⟨c, ds, rfl, hc⟩ := exists_of_plainHead hhead
  rw [inlineGlyphs, List.cons_append] at hrest
  rcases hc with ⟨hc, hblank⟩ | ⟨hsign, hspecial⟩
  · have hafter := startsBlank_inlineGlyphs hblank (mark.next c) (g :: gs)
    have hspace := startsWith_of_not_startsBlank hafter
    refine dispatch_startsPlain hrest hflow ?_ (fun _ => hafter) hmarkers finish
    rcases hc with rfl | rfl | rfl <;> simp [startsPlain, hafter, hspace]
  · simp only [startsSign, Bool.not_eq_true', Bool.or_eq_false_iff] at hsign
    refine dispatch_startsPlain hrest hflow ?_ (fun hdash => ?_) hmarkers finish
    · rw [startsPlain, hsign.1.1, hspecial]
      rfl
    · rw [show c = '-' from hdash] at hspecial
      cases hspecial

/-- A quoted text is read as a quoted scalar. -/
theorem dispatch_quoted {gs : List Glyph} (hrest : lexer.rest = ⟨'\x22', mark⟩ :: gs)
    (finish : Mark) : lexer.dispatch finish mark = lexer.fetchQuoted true finish mark := by
  have hmarker (x : Char) (hx : x ≠ '\x22') : startsMarker x lexer.rest = false := by
    rw [hrest]
    match gs with
    | [] => rfl
    | [_] => rfl
    | _ :: _ :: _ => simp [startsMarker, hx.symm]
  rw [dispatch, hmarker '-' (by decide), hmarker '.' (by decide), hrest]
  simp

/-- Remembering a possible key changes nothing else. -/
theorem exists_of_saveKey {now : Mark} {next : Lexer} (h : lexer.saveKey now = .ok next) :
    ∃ key?, next = { lexer with key := key? } := by
  rw [saveKey] at h
  split at h
  · obtain ⟨other, hother, h⟩ := Outcome.bind_eq_ok.mp h
    obtain ⟨-, -, hother⟩ := Outcome.bind_eq_ok.mp hother
    cases hother
    cases h
    exact ⟨_, rfl⟩
  · cases h
    exact ⟨lexer.key, rfl⟩

/-- The characters of a plain scalar are scanned, and then what follows them. -/
theorem scanPlain_isPlainText {margin : Nat} (h : isPlainText cs)
    (hmargin : margin ≤ mark.column + 1) (gs : List Glyph) :
    scanPlain false margin [] {} (inlineGlyphs mark cs ++ gs) =
      scanPlain false margin cs.reverse {} gs := by
  simp only [isPlainText, Bool.and_eq_true] at h
  obtain ⟨c, ds, rfl, -⟩ := exists_of_plainHead h.1.1
  have hscan := scanPlain_plainBody [] [] mark gs h.1.2 (by simp) hmargin (by simp)
  simpa using hscan

/-- The characters of a quoted scalar are scanned up to its end. -/
theorem scanQuoted_yamlQuoted (text : String) (finish mark : Mark) (gs : List Glyph) :
    scanQuoted true finish [] {} none
        ((inlineGlyphs mark (Text.yamlQuoted text).toList ++ gs).drop 1) = .ok (text, gs) := by
  have hscan := scanQuoted_yamlEscape text.toList finish [] [] (mark.next '\x22')
    (Nat.succ_ne_zero _) gs
  rw [toList_yamlQuoted]
  simp only [List.reverse_nil, List.nil_append, String.ofList_toList] at hscan
  exact hscan

/-- A scalar before a colon is read up to the colon. -/
theorem dispatch_colon {kind : TokenKind} (h : ScalarText cs kind)
    (hwithin : Within finish mark (cs ++ ':' :: ds) kinds indents keyAllowed lexer)
    (hblank : startsBlankText ds) (hmargin : lexer.margin ≤ mark.column + 1) {next : Lexer}
    (hnext : lexer.saveKey mark = .ok next) :
    lexer.dispatch finish mark =
      .ok { next.push kind mark with
        rest := (place (mark.after cs) (':' :: ds)).1, keyAllowed := false } := by
  have hrest : lexer.rest = inlineGlyphs mark cs ++ (place (mark.after cs) (':' :: ds)).1 := by
    rw [hwithin.rest, place_append fun c hc => (h.inline c hc).1]
  have hflow : lexer.inFlow = false := by simp [inFlow, hwithin.outerKeys]
  obtain ⟨key?, rfl⟩ := exists_of_saveKey hnext
  cases h with
  | plain h _ =>
    have hafter := startsBlank_place hblank ((mark.after cs).next ':')
    have hscan : scanPlain lexer.inFlow lexer.margin [] {} lexer.rest =
        .ok ⟨.ofList cs, false, (place (mark.after cs) (':' :: ds)).1⟩ := by
      rw [hflow, hrest, scanPlain_isPlainText h hmargin, place_cons rfl,
        scanPlain_colon rfl hafter, List.reverse_reverse]
    rw [dispatch_plain h (.inl rfl) hrest hflow, fetchPlain, hnext]
    show (scanPlain lexer.inFlow lexer.margin [] {} lexer.rest >>= _) = _
    rw [hscan]
    rfl
  | quoted text =>
    have hscan : scanQuoted true finish [] {} none (lexer.rest.drop 1) =
        .ok (text, (place (mark.after (Text.yamlQuoted text).toList) (':' :: ds)).1) := by
      rw [hrest, scanQuoted_yamlQuoted]
    obtain ⟨gs, hquote⟩ : ∃ gs, lexer.rest = ⟨'\x22', mark⟩ :: gs := by
      rw [hrest, toList_yamlQuoted]
      exact ⟨_, rfl⟩
    rw [dispatch_quoted hquote, fetchQuoted, hnext]
    show (scanQuoted true finish [] {} none (lexer.rest.drop 1) >>= _) = _
    rw [hscan]
    rfl

/-- A scalar at the end of its line is read up to this end, or over it to the next sign. -/
theorem dispatch_newline {kind : TokenKind} (h : ScalarText cs kind)
    (hwithin : Within finish mark (cs ++ '\n' :: ds) kinds indents keyAllowed lexer)
    (hdedents : Dedents lexer.margin ds) (hmargin : lexer.margin ≤ mark.column + 1)
    {next : Lexer} (hnext : lexer.saveKey mark = .ok next) :
    ∃ rest crossed,
      lexer.dispatch finish mark =
        .ok { next.push kind mark with rest := rest, keyAllowed := crossed } ∧
      toNextSign false crossed false rest =
        toNextSign false true false (place ((mark.after cs).nextLine 1) ds).1 := by
  have hrest : lexer.rest = inlineGlyphs mark cs ++ (place (mark.after cs) ('\n' :: ds)).1 := by
    rw [hwithin.rest, place_append fun c hc => (h.inline c hc).1]
  have hflow : lexer.inFlow = false := by simp [inFlow, hwithin.outerKeys]
  obtain ⟨key?, rfl⟩ := exists_of_saveKey hnext
  cases h with
  | plain h _ =>
    obtain ⟨rest, hend, hsigns⟩ := scanPlain_newline cs.reverse (mark.after cs) hdedents
    have hscan : scanPlain lexer.inFlow lexer.margin [] {} lexer.rest =
        .ok ⟨.ofList cs, true, rest⟩ := by
      rw [hflow, hrest, scanPlain_isPlainText h hmargin, hend, List.reverse_reverse]
    refine ⟨rest, true, ?_, hsigns⟩
    rw [dispatch_plain h (.inr rfl) hrest hflow, fetchPlain, hnext]
    show (scanPlain lexer.inFlow lexer.margin [] {} lexer.rest >>= _) = _
    rw [hscan]
    rfl
  | quoted text =>
    have hscan : scanQuoted true finish [] {} none (lexer.rest.drop 1) =
        .ok (text, (place (mark.after (Text.yamlQuoted text).toList) ('\n' :: ds)).1) := by
      rw [hrest, scanQuoted_yamlQuoted]
    obtain ⟨gs, hquote⟩ : ∃ gs, lexer.rest = ⟨'\x22', mark⟩ :: gs := by
      rw [hrest, toList_yamlQuoted]
      exact ⟨_, rfl⟩
    refine ⟨_, false, ?_, toNextSign_newline false false _ ds⟩
    rw [dispatch_quoted hquote, fetchQuoted, hnext]
    show (scanQuoted true finish [] {} none (lexer.rest.drop 1) >>= _) = _
    rw [hscan]
    rfl

end Lexer

end ConfigSchema.Yaml
