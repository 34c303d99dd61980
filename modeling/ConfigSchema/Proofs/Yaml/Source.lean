import ConfigSchema.Yaml.Token.Lexer

/-!
# Places in a text

What the glyphs of a text are, piece by piece: text on one line, line breaks, and the spaces before
a sign.

## Main definitions

- `endsLine` — the characters that end a line
- `Mark.after` — the place after a text on one line
- `inlineGlyphs` — the glyphs of a text on one line

## Main statements

- `place_append` — the glyphs of a text on one line, and then of what follows it
- `line_le_place` — lines are counted upward
-/

namespace ConfigSchema.Yaml

/-- Whether the character ends a line, or is the first of two that do. -/
def endsLine (c : Char) : Bool := c == '\r' || c == '\u0085' || isBreak c

/-- The place after a text that stays on one line. -/
def Mark.after (mark : Mark) (cs : List Char) : Mark := cs.foldl Mark.next mark

/-- The glyphs of a text that stays on one line. -/
def inlineGlyphs (mark : Mark) : List Char → List Glyph
  | [] => []
  | c :: cs => ⟨c, mark⟩ :: inlineGlyphs (mark.next c) cs

@[simp] theorem Mark.after_nil (mark : Mark) : mark.after [] = mark := rfl

@[simp] theorem Mark.after_cons (mark : Mark) (c : Char) (cs : List Char) :
    mark.after (c :: cs) = (mark.next c).after cs := rfl

@[simp] theorem Mark.next_line (mark : Mark) (c : Char) : (mark.next c).line = mark.line := rfl

@[simp] theorem Mark.nextLine_line (mark : Mark) (width : Nat) :
    (mark.nextLine width).line = mark.line + 1 := rfl

@[simp] theorem Mark.nextLine_column (mark : Mark) (width : Nat) :
    (mark.nextLine width).column = 0 := rfl

@[simp] theorem Mark.after_line (mark : Mark) (cs : List Char) :
    (mark.after cs).line = mark.line := by
  induction cs generalizing mark with
  | nil => rfl
  | cons c cs ih => exact ih (mark.next c)

@[simp] theorem Mark.after_column (mark : Mark) (cs : List Char) :
    (mark.after cs).column = mark.column + cs.length := by
  induction cs generalizing mark with
  | nil => rfl
  | cons c cs ih =>
    rw [after_cons, ih, List.length_cons]
    show mark.column + 1 + cs.length = _
    omega

theorem Mark.after_offset (mark : Mark) (cs : List Char) :
    (mark.after cs).offset = mark.offset + (String.ofList cs).utf8ByteSize := by
  induction cs generalizing mark with
  | nil => rfl
  | cons c cs ih =>
    rw [after_cons, ih, Mark.next, String.ofList_cons]
    simp [String.utf8ByteSize_append]
    omega

theorem inlineGlyphs_append (mark : Mark) (cs ds : List Char) :
    inlineGlyphs mark (cs ++ ds) = inlineGlyphs mark cs ++ inlineGlyphs (mark.after cs) ds := by
  induction cs generalizing mark with
  | nil => rfl
  | cons c cs ih => rw [List.cons_append, inlineGlyphs, ih, inlineGlyphs, List.cons_append,
      Mark.after_cons]

@[simp] theorem length_inlineGlyphs (mark : Mark) (cs : List Char) :
    (inlineGlyphs mark cs).length = cs.length := by
  induction cs generalizing mark with
  | nil => rfl
  | cons c cs ih => rw [inlineGlyphs, List.length_cons, ih, List.length_cons]

theorem isBreak_of_not_endsLine {c : Char} (h : endsLine c = false) : isBreak c = false := by
  simp only [endsLine, Bool.or_eq_false_iff] at h
  exact h.2

/-- A character that ends no line is a glyph of its own. -/
theorem place_cons {c : Char} (h : endsLine c = false) (mark : Mark) (cs : List Char) :
    place mark (c :: cs) =
      (⟨c, mark⟩ :: (place (mark.next c) cs).1, (place (mark.next c) cs).2) := by
  simp only [endsLine, Bool.or_eq_false_iff, beq_eq_false_iff_ne] at h
  obtain ⟨⟨hreturn, hnext⟩, hbreak⟩ := h
  rw [place]
  · simp [hreturn, hnext, hbreak]
  · rintro ds rfl -
    exact hreturn rfl

/-- A line feed starts the next line. -/
theorem place_newline (mark : Mark) (cs : List Char) :
    place mark ('\n' :: cs) =
      (⟨'\n', mark⟩ :: (place (mark.nextLine 1) cs).1, (place (mark.nextLine 1) cs).2) := rfl

/-- The glyphs of a text on one line come before those of what follows it. -/
theorem place_append {cs : List Char} (h : ∀ c ∈ cs, endsLine c = false) (mark : Mark)
    (ds : List Char) :
    place mark (cs ++ ds) =
      (inlineGlyphs mark cs ++ (place (mark.after cs) ds).1, (place (mark.after cs) ds).2) := by
  induction cs generalizing mark with
  | nil => rfl
  | cons c cs ih =>
    rw [List.cons_append, place_cons (h c (by simp)), ih fun d hd => h d (by simp [hd])]
    rfl

theorem place_inline {cs : List Char} (h : ∀ c ∈ cs, endsLine c = false) (mark : Mark) :
    place mark cs = (inlineGlyphs mark cs, mark.after cs) := by
  have happend := place_append h mark []
  simpa [place] using happend

/-- A character that ends a line is one glyph, with the line feed after it if it is a carriage
return, and the next line follows. -/
theorem place_endsLine {c : Char} (h : endsLine c) (mark : Mark) (cs : List Char) :
    ∃ b width ds, isBreak b ∧ (cs = ds ∨ c = '\r' ∧ cs = '\n' :: ds) ∧
      place mark (c :: cs) =
        (⟨b, mark⟩ :: (place (mark.nextLine width) ds).1,
          (place (mark.nextLine width) ds).2) := by
  by_cases hpair : c = '\r' ∧ ∃ ds, cs = '\n' :: ds
  · obtain ⟨rfl, ds, rfl⟩ := hpair
    exact ⟨'\n', 2, ds, rfl, .inr ⟨rfl, rfl⟩, rfl⟩
  · have hplace : ∃ b, isBreak b ∧ place mark (c :: cs) =
        (⟨b, mark⟩ :: (place (mark.nextLine c.utf8Size) cs).1,
          (place (mark.nextLine c.utf8Size) cs).2) := by
      rw [place]
      · simp only [endsLine, Bool.or_eq_true] at h
        by_cases hreturn : (c == '\r' || c == '\u0085') = true
        · exact ⟨'\n', rfl, by rw [if_pos hreturn]⟩
        · have hbreak : isBreak c = true := by
            rcases h with h | h
            · exact absurd (Bool.or_eq_true _ _ ▸ h) hreturn
            · exact h
          exact ⟨c, hbreak, by rw [if_neg hreturn, if_pos hbreak]⟩
      · rintro ds rfl rfl
        exact hpair ⟨rfl, ds, rfl⟩
    obtain ⟨b, hb, hplace⟩ := hplace
    exact ⟨b, _, cs, hb, .inl rfl, hplace⟩

/-- Lines are counted upward. -/
theorem line_le_place (mark : Mark) (cs : List Char) :
    (∀ g ∈ (place mark cs).1, mark.line ≤ g.mark.line) ∧
      mark.line ≤ (place mark cs).2.line := by
  match cs with
  | [] => simp [place]
  | c :: cs =>
    cases hc : endsLine c with
    | false =>
      rw [place_cons hc]
      obtain ⟨hglyphs, hfinish⟩ := line_le_place (mark.next c) cs
      exact ⟨List.forall_mem_cons.mpr ⟨Nat.le_refl _, hglyphs⟩, hfinish⟩
    | true =>
      obtain ⟨b, width, ds, -, hds, hplace⟩ := place_endsLine hc mark cs
      have hlength : ds.length ≤ cs.length := by
        rcases hds with rfl | ⟨-, rfl⟩ <;> simp
      obtain ⟨hglyphs, hfinish⟩ := line_le_place (mark.nextLine width) ds
      have hline : (mark.nextLine width).line = mark.line + 1 := rfl
      rw [hplace]
      refine ⟨List.forall_mem_cons.mpr ⟨Nat.le_refl _, fun g hg => ?_⟩, by dsimp only; omega⟩
      have := hglyphs g hg
      omega
termination_by cs.length
decreasing_by
  · simp
  · simp only [List.length_cons]
    omega

end ConfigSchema.Yaml
