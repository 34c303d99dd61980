import ConfigSchema.Proofs.Event.Tree
import ConfigSchema.Proofs.Yaml.Lexer.Whole
import ConfigSchema.Proofs.Yaml.Scalars

/-!
# Texts that read as themselves

A text is written without quotes if, on its own, it reads as itself. Then it has the form of a plain
scalar, which reads the same wherever it stands.

## Main statements

- `isPlainText_of_isPlainSafe` — a text that reads as itself has the form of a plain scalar
- `resolvePlain_of_isPlainSafe` — and it resolves to itself
-/

namespace ConfigSchema

open Yaml

/-! ## The form of a text -/

/-- A text that can be written without quotes. -/
theorem isPlainSafe_eq {text : String} (h : isPlainSafe text) :
    text ≠ "" ∧ Text.trimWhite text = text ∧
      (∀ c ∈ text.toList, endsLine c = false ∧ c ≠ byteOrderMark) ∧
      Tree.ofText? text = .ok (.str text) := by
  simp only [isPlainSafe, Bool.and_eq_true, Bool.not_eq_true', List.all_eq_true, beq_iff_eq] at h
  obtain ⟨⟨⟨hne, htrim⟩, hchars⟩, hreads⟩ := h
  refine ⟨fun heq => by simp [heq] at hne, htrim, fun c hc => ?_, ?_⟩
  · have hchar := hchars c hc
    simp only [Bool.or_eq_false_iff, beq_eq_false_iff_ne] at hchar
    obtain ⟨⟨⟨hfeed, hreturn⟩, -⟩, hbreaks⟩ := hchar
    constructor
    · cases hline : endsLine c with
      | false => rfl
      | true =>
        simp only [endsLine, isBreak, Bool.or_eq_true, beq_iff_eq] at hline
        rcases hline with (rfl | rfl) | (rfl | rfl) | rfl
        · exact absurd rfl hreturn
        · cases hbreaks
        · exact absurd rfl hfeed
        · cases hbreaks
        · cases hbreaks
    · rintro rfl
      cases hbreaks
  · rw [readsAsItself] at hreads
    split at hreads
    · rename_i read hread
      rw [hread, eq_of_beq hreads]
    · cases hreads

/-- The source of a text that stays on one line. -/
theorem ofString_inline {text : String} (hline : ∀ c ∈ text.toList, endsLine c = false)
    {source : Source} (h : Source.ofString? text = .ok source) :
    (∀ c ∈ text.toList, isAllowed c) ∧
      source = ⟨inlineGlyphs {} text.toList, Mark.after {} text.toList⟩ := by
  rw [Source.ofString?] at h
  dsimp only at h
  split at h
  · rename_i hallowed
    rw [place_inline hline] at h
    exact ⟨List.all_eq_true.mp hallowed, (Except.ok.inj h).symm⟩
  · cases h

/-- A text that stays on one line and is allowed has a source. -/
theorem ofString_eq_ok {text : String} (hline : ∀ c ∈ text.toList, endsLine c = false)
    (hallowed : ∀ c ∈ text.toList, isAllowed c) :
    Source.ofString? text = .ok ⟨inlineGlyphs {} text.toList, Mark.after {} text.toList⟩ := by
  rw [Source.ofString?]
  dsimp only
  rw [if_pos (List.all_eq_true.mpr hallowed), place_inline hline]

/-- A plain scalar that is the whole text starts like one wherever it stands. -/
theorem plainHead_of_startsPlain {c : Char} {cs : List Char} {mark : Mark}
    (h : Lexer.startsPlain false c (inlineGlyphs mark cs))
    (hdash : c = '-' → startsBlank (inlineGlyphs mark cs) = false) (hc : c ≠ byteOrderMark) :
    plainHead (c :: cs) := by
  rw [startsBlank_inlineGlyphs_eq] at hdash
  rw [Lexer.startsPlain, startsBlank_inlineGlyphs_eq] at h
  rw [plainHead]
  split
  · rename_i hspecial
    simp only [Bool.or_eq_true, beq_iff_eq] at hspecial
    rcases hspecial with (rfl | rfl) | rfl
    · simpa using hdash rfl
    · simpa using h
    · simpa using h
  · rename_i hspecial
    simp only [Bool.or_eq_true, beq_iff_eq, not_or] at hspecial
    simp only [hspecial, Bool.or_eq_true, Bool.not_eq_true', Bool.or_eq_false_iff, beq_iff_eq,
      Bool.and_eq_true, false_and, or_false, and_false] at h
    obtain ⟨hblank, hnone⟩ := h
    have hhash : c ≠ '#' := by
      rintro rfl
      cases hnone
    rw [startsSign, hblank, hnone]
    simp [hhash, hc]

/-- A text that starts no document is no marker. -/
theorem isMarkerText_of_startsDocumentMarker {mark : Mark} {cs : List Char}
    (hcolumn : mark.column = 0) (h : startsDocumentMarker (inlineGlyphs mark cs) = false) :
    isMarkerText cs = false := by
  match cs with
  | [] | [_] | [_, _] => rfl
  | a :: b :: c :: rest =>
    refine Bool.eq_false_iff.mpr fun hmarker => ?_
    simp only [isMarkerText, Bool.and_eq_true, Bool.or_eq_true, beq_iff_eq] at hmarker
    obtain ⟨⟨⟨ha, rfl⟩, rfl⟩, hrest⟩ := hmarker
    simp only [startsDocumentMarker, inlineGlyphs, startsMarker, startsBlank_inlineGlyphs_eq,
      hcolumn, hrest, Bool.or_eq_false_iff] at h
    rcases ha with rfl | rfl
    · exact absurd h.1 (by decide)
    · exact absurd h.2 (by decide)

/-- A text that reads as itself is read as one scalar, without quotes. -/
theorem plainAt_of_isPlainSafe {text : String} (h : isPlainSafe text) :
    Lexer.PlainAt { rest := inlineGlyphs {} text.toList } text ∧
      ∀ c ∈ text.toList, isAllowed c := by
  obtain ⟨hne, -, hchars, hreads⟩ := isPlainSafe_eq h
  obtain ⟨source, hsource, token, hmem, plain, hkind⟩ := hasScalar_of_ofText hreads hne
  obtain ⟨hallowed, rfl⟩ := ofString_inline (fun c hc => (hchars c hc).1) hsource
  have hlength : text.toList.length = (inlineGlyphs {} text.toList).length := by
    rw [length_inlineGlyphs]
  have hglyphs : inlineGlyphs {} text.toList ≠ [] := by
    rw [← List.length_pos_iff, ← hlength, List.length_pos_iff]
    simpa using hne
  exact ⟨Lexer.plainAt_of_mem_tokenize hmem hkind hlength hglyphs, hallowed⟩

/-- A text that reads as itself has the form of a plain scalar. -/
theorem isPlainText_of_isPlainSafe {text : String} (h : isPlainSafe text) :
    isPlainText text.toList := by
  obtain ⟨hne, -, hchars, -⟩ := isPlainSafe_eq h
  obtain ⟨⟨⟨g, gs, hrest, hstart, hdash⟩, hmarker, crossed, rest, hscan⟩, -⟩ :=
    plainAt_of_isPlainSafe h
  obtain ⟨c, cs, hcs⟩ : ∃ c cs, text.toList = c :: cs :=
    List.exists_cons_of_ne_nil (by simpa using hne)
  rw [hcs] at hchars hscan hmarker hrest ⊢
  obtain ⟨rfl, rfl⟩ := List.cons.inj hrest
  obtain ⟨hbody, -⟩ := plainBody_of_scanPlain (fun d hd => (hchars d hd).1) hscan (by simp [hcs])
  rw [isPlainText, plainHead_of_startsPlain hstart hdash (hchars c (by simp)).2,
    isMarkerText_of_startsDocumentMarker rfl hmarker]
  exact Bool.and_eq_true_iff.mpr ⟨hbody, rfl⟩

/-! ## The value of a text -/

/-- A text in the form of a plain scalar, alone, has one token beside its end. -/
theorem tokenize_plainAt {cs : List Char} {text : String} (h : isPlainText cs)
    (hat : Lexer.PlainAt { rest := inlineGlyphs {} cs } text) (finish : Mark) :
    ∃ tokens, tokenize ⟨inlineGlyphs {} cs, finish⟩ = (tokens, none) ∧
      tokens.map Token.kind = [.scalar (.ofList cs) true, .streamEnd] := by
  let first : Lexer := { rest := inlineGlyphs {} cs }
  have hform := h
  simp only [isPlainText, Bool.and_eq_true] at h
  obtain ⟨⟨g, gs, hrest, hstart, hdash⟩, hmarker, -⟩ := hat
  obtain ⟨c, ds, rfl, -⟩ := exists_of_plainHead h.1.1
  obtain ⟨rfl, rfl⟩ := List.cons.inj hrest
  -- the scalar
  let scalar : Lexer := { rest := [], held := [⟨.scalar (.ofList (c :: ds)) true, {}⟩],
                          key := some ⟨false, 0, {}⟩, keyAllowed := false }
  have hsettle : first.settle finish = .ok first :=
    Lexer.settle_fresh hrest (startsSign_of_plainHead h.1.1) rfl rfl (by simp [first])
  have hscan : scanPlain false 0 [] {} (inlineGlyphs {} (c :: ds)) =
      .ok ⟨.ofList (c :: ds), false, []⟩ := by
    have hscan := @Lexer.scanPlain_isPlainText {} (c :: ds) 0 hform (Nat.zero_le _) []
    rw [List.append_nil] at hscan
    rw [hscan, scanPlain, List.reverse_reverse]
  have hact : first.act finish = .ok scalar := by
    rw [Lexer.act_of_rest hrest (by simp),
      Lexer.dispatch_startsPlain hrest rfl hstart hdash hmarker, Lexer.fetchPlain]
    show (scanPlain false 0 [] {} (inlineGlyphs {} (c :: ds)) >>= _) = _
    rw [hscan]
    rfl
  -- the end
  have hharmless : Lexer.Harmless {} scalar.key := by
    intro key hkey
    obtain rfl := Option.some.inj hkey
    exact ⟨rfl, Nat.le_refl _⟩
  obtain ⟨key?, hend, hharmless, -⟩ := @Lexer.settle_eq finish {} scalar hharmless rfl
  obtain ⟨last, hlast, hended, hkey, houter, hkinds⟩ :=
    @Lexer.act_end finish {} (scalar.movedOn key?) rfl hharmless rfl
  have hcomes : Lexer.Comes finish first (scalar.movedOn key?) :=
    ⟨rfl, first, hsettle, .head hact rfl hend (.refl _)⟩
  exact ⟨last.held, Lexer.tokenize_of_comes hcomes hlast hended hkey houter, hkinds⟩

/-- A text that reads as itself resolves to itself. -/
theorem resolvePlain_of_isPlainSafe {text : String} (h : isPlainSafe text) :
    resolvePlain text = some (.str text) := by
  obtain ⟨-, -, hchars, hreads⟩ := isPlainSafe_eq h
  obtain ⟨hat, hallowed⟩ := plainAt_of_isPlainSafe h
  obtain ⟨tokens, htokens, hkinds⟩ :=
    tokenize_plainAt (isPlainText_of_isPlainSafe h) hat (Mark.after {} text.toList)
  have hsource := ofString_eq_ok (fun c hc => (hchars c hc).1) hallowed
  have hagrees := (StreamNode.scalar text .str).agrees_ofText hsource htokens (by
    rw [hkinds, String.ofList_toList, StreamNode.rootKinds, scalarKind, isShownPlain, h]
    rfl)
  rw [hreads, StreamNode.tree?, shownTree?, isShownPlain, h, Bool.or_true, if_pos rfl,
    shownText] at hagrees
  cases hresolve : resolvePlain text with
  | none =>
    rw [hresolve] at hagrees
    obtain ⟨mark, hread⟩ := hagrees
    cases hread
  | some tree =>
    rw [hresolve] at hagrees
    exact congrArg some (Except.ok.inj hagrees).symm

end ConfigSchema
