import ConfigSchema.Proofs.Yaml.Blank

/-!
# Plain scalars in block text

A text can be written without quotes if it starts like a scalar and nowhere goes on like a comment,
a key or a further line. Such a text is read up to the colon or the line break after it, wherever
it stands.

## Main definitions

- `isPlainText` — whether a text can be written without quotes
- `Dedents` — a text goes on with a comment, or with a line that is indented less

## Main statements

- `plainBody_of_scanPlain` — only such a text is read as a whole
- `scanPlain_colon` — a plain scalar before a colon
- `scanPlain_newline` — a plain scalar before a line break
-/

namespace ConfigSchema.Yaml

open Lexer (toNextSign startsPlain)

/-! ## Texts without quotes -/

/-- Whether the text is at its end or goes on with a blank or a line break. -/
def startsBlankText : List Char → Bool
  | [] => true
  | c :: _ => isBlankOrBreak c

/-- Whether the characters can go on a scalar without quotes; `afterBlank` says that a blank stands
before them. -/
def plainBody : (afterBlank : Bool) → List Char → Bool
  | _, [] => true
  | afterBlank, c :: cs =>
      if isBlank c then !cs.isEmpty && plainBody true cs
      else !endsLine c && !(afterBlank && c == '#') && !(c == ':' && startsBlankText cs) &&
        plainBody false cs

/-- Whether the characters start like a scalar without quotes. -/
def plainHead : List Char → Bool
  | [] => false
  | c :: cs =>
      if c == '-' || c == '?' || c == ':' then !startsBlankText cs
      else startsSign c && !"-?:,[]\x7b\x7d#&*!|>\x27\x22%@\x60".toList.contains c

/-- Whether the characters are those of a line that starts or ends a document. -/
def isMarkerText : List Char → Bool
  | a :: b :: c :: rest => (a == '-' || a == '.') && b == a && c == a && startsBlankText rest
  | _ => false

/-- Whether a text can be written without quotes, wherever it stands. -/
def isPlainText (cs : List Char) : Bool :=
  plainHead cs && plainBody false cs && !isMarkerText cs

/-- What a scalar without quotes goes on with ends no line. -/
theorem endsLine_of_plainBody {afterBlank : Bool} {cs : List Char}
    (h : plainBody afterBlank cs) : ∀ c ∈ cs, endsLine c = false := by
  induction cs generalizing afterBlank with
  | nil => simp
  | cons c cs ih =>
    rw [plainBody] at h
    split at h
    · rename_i hblank
      have hc : endsLine c = false := by
        simp only [isBlank, Bool.or_eq_true, beq_iff_eq] at hblank
        rcases hblank with rfl | rfl <;> rfl
      exact List.forall_mem_cons.mpr ⟨hc, ih (Bool.and_eq_true_iff.mp h).2⟩
    · simp only [Bool.and_eq_true, Bool.not_eq_true'] at h
      exact List.forall_mem_cons.mpr ⟨h.1.1.1, ih h.2⟩

/-- A text that goes on with a blank does so as a list of glyphs. -/
theorem startsBlank_place {cs : List Char} (h : startsBlankText cs) (mark : Mark) :
    startsBlank (place mark cs).1 := by
  match cs with
  | [] => rfl
  | c :: cs =>
    cases hline : endsLine c with
    | false =>
      rw [place_cons hline]
      exact h
    | true =>
      obtain ⟨b, width, ds, hb, -, hplace⟩ := place_endsLine hline mark cs
      rw [hplace]
      simp [startsBlank, isBlankOrBreak, hb]

/-! ## Reading a scalar -/

/-- Only a glyph at the start of a line can start or end a document. -/
theorem startsDocumentMarker_of_column {g : Glyph} (h : g.mark.column ≠ 0) (gs : List Glyph) :
    startsDocumentMarker (g :: gs) = false := by
  have hmarker (c : Char) : startsMarker c (g :: gs) = false := by
    match gs with
    | [] => rfl
    | [_] => rfl
    | _ :: _ :: _ => simp [startsMarker, h]
  rw [startsDocumentMarker, hmarker, hmarker]
  rfl

/-- A colon inside a scalar is not followed by a blank. -/
theorem startsBlank_inlineGlyphs {cs : List Char} (h : startsBlankText cs = false) (mark : Mark)
    (gs : List Glyph) : startsBlank (inlineGlyphs mark cs ++ gs) = false := by
  cases cs with
  | nil => cases h
  | cons c cs => exact h

/-- The characters of a plain scalar are read, and then what follows them. -/
theorem scanPlain_plainBody {margin : Nat} {cs : List Char} (text blanks : List Char)
    (mark : Mark) (gs : List Glyph) (h : plainBody (!blanks.isEmpty) cs) (hcs : cs ≠ [])
    (hmargin : margin ≤ mark.column + 1)
    (hcolumn : blanks ≠ [] → margin ≤ mark.column ∧ mark.column ≠ 0) :
    scanPlain false margin text ⟨blanks, false, none, []⟩ (inlineGlyphs mark cs ++ gs) =
      scanPlain false margin (cs.reverse ++ (blanks ++ text)) {} gs := by
  -- `blanks` have come since the last character of the scalar, and count if another one comes
  induction cs generalizing text blanks mark with
  | nil => exact absurd rfl hcs
  | cons c cs ih =>
    have hnext : (mark.next c).column = mark.column + 1 := rfl
    rw [inlineGlyphs, List.cons_append, scanPlain]
    rw [plainBody] at h
    cases hblank : isBlank c with
    | true =>
      rw [hblank, if_pos rfl] at h
      obtain ⟨hne, h⟩ := Bool.and_eq_true_iff.mp h
      have hne : cs ≠ [] := by simpa using hne
      simp only [Bool.false_and, if_true, Bool.false_eq_true, if_false, Gap.addBlank]
      rw [ih text (c :: blanks) (mark.next c) h hne (by omega) (by omega)]
      simp
    | false =>
      rw [hblank] at h
      simp only [Bool.false_eq_true, if_false, Bool.and_eq_true, Bool.not_eq_true'] at h
      obtain ⟨⟨⟨hline, hhash⟩, hcolon⟩, h⟩ := h
      have hbreak := isBreak_of_not_endsLine hline
      have hstop : (!Gap.isEmpty ⟨blanks, false, none, []⟩ &&
          ((!false && decide (mark.column < margin)) ||
            startsDocumentMarker (⟨c, mark⟩ :: (inlineGlyphs (mark.next c) cs ++ gs)) ||
              c == '#')) = false := by
        cases blanks with
        | nil => rfl
        | cons b blanks =>
          obtain ⟨hmargin, hcolumn⟩ := hcolumn (by simp)
          rw [startsDocumentMarker_of_column hcolumn]
          simpa [Gap.isEmpty, Nat.not_lt.mpr hmargin] using hhash
      have hkey : (c == ':' && startsBlank (inlineGlyphs (mark.next c) cs ++ gs)) = false := by
        cases hc : c == ':' with
        | false => rfl
        | true =>
          rw [hc, Bool.true_and] at hcolon
          exact startsBlank_inlineGlyphs hcolon _ gs
      dsimp only
      rw [hbreak, hstop, hkey]
      simp only [Bool.false_eq_true, if_false, Bool.false_and, Bool.or_self, Gap.folded]
      by_cases hne : cs = []
      · subst hne
        rfl
      · have hrest := ih (c :: (blanks ++ text)) [] (mark.next c) h hne (by omega) (by simp)
        rw [hrest]
        simp

theorem startsBlank_inlineGlyphs_eq (mark : Mark) (cs : List Char) :
    startsBlank (inlineGlyphs mark cs) = startsBlankText cs := by
  cases cs <;> rfl

/-- The characters that a plain scalar takes up whole can go on one. -/
theorem plainBody_of_scanPlain {margin : Nat} {text blanks cs : List Char} {mark : Mark}
    {scan : PlainScan} (hcs : ∀ c ∈ cs, endsLine c = false)
    (h : scanPlain false margin text ⟨blanks, false, none, []⟩ (inlineGlyphs mark cs) = .ok scan)
    (hlength : text.length + blanks.length + cs.length ≤ scan.text.toList.length) :
    plainBody (!blanks.isEmpty) cs ∧ (cs = [] → blanks = []) := by
  induction cs generalizing text blanks mark with
  | nil =>
    cases h
    simp only [String.toList_ofList, List.length_reverse, List.length_nil] at hlength
    exact ⟨rfl, fun _ => List.length_eq_zero_iff.mp (by omega)⟩
  | cons c cs ih =>
    have hline := hcs c (by simp)
    have hbreak := isBreak_of_not_endsLine hline
    have hrest : ∀ d ∈ cs, endsLine d = false := fun d hd => hcs d (by simp [hd])
    -- the scan does not stop here
    have hgoes {rest : List Glyph} (hstop : scan = ⟨.ofList text.reverse, false, rest⟩) :
        False := by
      rw [hstop] at hlength
      simp only [String.toList_ofList, List.length_reverse, List.length_cons] at hlength
      omega
    rw [inlineGlyphs, scanPlain] at h
    rw [plainBody]
    simp only [hbreak, Bool.false_and, Bool.not_false, Bool.true_and, Bool.or_false,
      Bool.false_eq_true, if_false] at h
    rw [List.length_cons] at hlength
    cases hblank : isBlank c with
    | true =>
      rw [hblank, if_pos rfl] at h
      obtain ⟨hbody, hnil⟩ := ih hrest h (by simp only [List.length_cons]; omega)
      have hne : cs ≠ [] := fun heq => List.cons_ne_nil c blanks (hnil heq)
      refine ⟨?_, by simp⟩
      simpa [hne] using hbody
    | false =>
      rw [hblank] at h
      simp only [Bool.false_eq_true, if_false] at h ⊢
      split at h
      · exact (hgoes (Except.ok.inj h).symm).elim
      rename_i hhash
      split at h
      · exact (hgoes (Except.ok.inj h).symm).elim
      rename_i hcolon
      obtain ⟨hbody, -⟩ := ih hrest h (by
        simp only [Gap.folded, Bool.false_eq_true, if_false, List.length_cons, List.length_append,
          List.length_nil]
        omega)
      rw [startsBlank_inlineGlyphs_eq] at hcolon
      have hnohash : (!blanks.isEmpty && c == '#') = false := by
        simp only [Gap.isEmpty, Bool.not_false, Bool.true_and, Bool.and_eq_true, Bool.or_eq_true,
          not_and, not_or] at hhash
        exact Bool.eq_false_iff.mpr fun hboth =>
          (hhash (Bool.and_eq_true_iff.mp hboth).1).2 (Bool.and_eq_true_iff.mp hboth).2
      rw [hline, hnohash, Bool.eq_false_iff.mpr hcolon]
      exact ⟨hbody, by simp⟩

/-! ## The end of a scalar -/

/-- A scalar ends before a colon and a blank. -/
theorem scanPlain_colon {margin : Nat} {text : List Char} {g : Glyph} {gs : List Glyph}
    (hcolon : g.char = ':') (hblank : startsBlank gs) :
    scanPlain false margin text {} (g :: gs) = .ok ⟨.ofList text.reverse, false, g :: gs⟩ := by
  rw [scanPlain]
  simp [hcolon, hblank, isBlank, isBreak, Gap.isEmpty]

/-- Whether the text goes on, after spaces, with a comment, with a sign at a column before
`margin`, or not at all. -/
def Dedents (margin : Nat) (cs : List Char) : Prop :=
  ∃ count ds, cs = List.replicate count ' ' ++ ds ∧
    (ds = [] ∨ ∃ c es, ds = c :: es ∧ isBlank c = false ∧ endsLine c = false ∧
      (c = '#' ∨ count < margin))

theorem Dedents.mono {margin more : Nat} {cs : List Char} (h : Dedents margin cs)
    (hmore : margin ≤ more) : Dedents more cs := by
  obtain ⟨count, ds, rfl, rfl | ⟨c, es, rfl, hblank, hline, hc⟩⟩ := h
  · exact ⟨count, [], rfl, .inl rfl⟩
  · refine ⟨count, c :: es, rfl, .inr ⟨c, es, rfl, hblank, hline, ?_⟩⟩
    exact hc.imp_right fun h => Nat.lt_of_lt_of_le h hmore

/-- The spaces at the start of a line leave no trace after a line break. -/
theorem scanPlain_indent (margin : Nat) (text : List Char) (gap : Gap) (hgap : gap.broken)
    (count : Nat) (mark : Mark) (cs : List Char) :
    scanPlain false margin text gap (place mark (List.replicate count ' ' ++ cs)).1 =
      scanPlain false margin text gap
        (place (mark.after (List.replicate count ' ')) cs).1 := by
  induction count generalizing mark with
  | zero => rfl
  | succ count ih =>
    rw [List.replicate_succ, List.cons_append, place_cons rfl, scanPlain]
    have hadd : gap.addBlank ' ' = gap := if_pos hgap
    simpa [isBlank, hadd] using ih (mark.next ' ')

/-- A scalar ends at the end of its line, if the text goes on with a comment or dedents. What is
left has the same signs as the following lines. -/
theorem scanPlain_newline {margin : Nat} (text : List Char) (mark : Mark) {cs : List Char}
    (h : Dedents margin cs) :
    ∃ rest, scanPlain false margin text {} (place mark ('\n' :: cs)).1 =
        .ok ⟨.ofList text.reverse, true, rest⟩ ∧
      toNextSign false true false rest =
        toNextSign false true false (place (mark.nextLine 1) cs).1 := by
  obtain ⟨count, ds, rfl, hds⟩ := h
  have hbroken : (Gap.addBreak {} '\n').broken = true := rfl
  have hscan : scanPlain false margin text {}
      (place mark ('\n' :: (List.replicate count ' ' ++ ds))).1 =
        scanPlain false margin text (Gap.addBreak {} '\n')
          (place ((mark.nextLine 1).after (List.replicate count ' ')) ds).1 := by
    rw [← scanPlain_indent margin text _ hbroken, place_newline, scanPlain]
    rfl
  have hcolumn : ((mark.nextLine 1).after (List.replicate count ' ')).column = count := by
    simp [Mark.nextLine]
  rw [hscan]
  refine ⟨_, ?_, (toNextSign_spaces false true _ count ds).symm⟩
  rcases hds with rfl | ⟨c, es, rfl, hblank, hline, hc⟩
  · rfl
  · have hbreak := isBreak_of_not_endsLine hline
    rw [place_cons hline, scanPlain]
    have hstop : (!(Gap.addBreak {} '\n').isEmpty && ((!false && decide
        (((mark.nextLine 1).after (List.replicate count ' ')).column < margin)) ||
          startsDocumentMarker (⟨c, (mark.nextLine 1).after (List.replicate count ' ')⟩ ::
            (place (((mark.nextLine 1).after (List.replicate count ' ')).next c) es).1) ||
          c == '#')) = true := by
      rw [hcolumn]
      rcases hc with rfl | hc
      · simp [Gap.isEmpty, hbroken]
      · simp [Gap.isEmpty, hbroken, hc]
    dsimp only
    rw [hblank, hbreak, hstop]
    rfl

end ConfigSchema.Yaml
