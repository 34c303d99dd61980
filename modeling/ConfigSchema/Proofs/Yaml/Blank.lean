import ConfigSchema.Event.BlockText
import ConfigSchema.Proofs.Yaml.Source

/-!
# What a lexer passes over

Between two signs a lexer passes over spaces, line breaks and comments. A comment is passed over to
its end if each line in it, as YAML breaks lines, is blank or starts a comment of its own.

## Main definitions

- `LinePart`, `staysBlank` — whether a text inside a comment has no sign
- `PassesOver` — a text is passed over in a part of a line
- `Inert` — whether a comment has no sign, however it is written
- `signsFrom` — the text from its first sign on

## Main statements

- `toNextSign_staysBlank` — a text without signs is passed over
- `signsFrom_commentText` — an inert comment is passed over
-/

namespace ConfigSchema.Yaml

open Lexer (toNextSign)

/-! ## Single characters -/

/-- A line break is passed, and a key may start after it. -/
theorem toNextSign_newline (keyAllowed inComment : Bool) (mark : Mark) (cs : List Char) :
    toNextSign false keyAllowed inComment (place mark ('\n' :: cs)).1 =
      toNextSign false true false (place (mark.nextLine 1) cs).1 := by
  simp [place_newline, toNextSign, isBreak]

theorem toNextSign_isBreak {b : Char} (h : isBreak b) (keyAllowed inComment : Bool)
    (mark : Mark) (gs : List Glyph) :
    toNextSign false keyAllowed inComment (⟨b, mark⟩ :: gs) = toNextSign false true false gs := by
  rw [toNextSign]
  simp [h]

theorem endsLine_of_mem_spaces {count : Nat} {c : Char} (h : c ∈ List.replicate count ' ') :
    endsLine c = false := by
  obtain rfl := List.eq_of_mem_replicate h
  rfl

/-- Spaces stay on their line. -/
theorem place_spaces (mark : Mark) (count : Nat) (cs : List Char) :
    place mark (List.replicate count ' ' ++ cs) =
      (inlineGlyphs mark (List.replicate count ' ') ++
          (place (mark.after (List.replicate count ' ')) cs).1,
        (place (mark.after (List.replicate count ' ')) cs).2) :=
  place_append (fun _ => endsLine_of_mem_spaces) mark cs

/-- Spaces are passed. -/
theorem toNextSign_spaces (inFlow keyAllowed : Bool) (mark : Mark) (count : Nat)
    (cs : List Char) :
    toNextSign inFlow keyAllowed false (place mark (List.replicate count ' ' ++ cs)).1 =
      toNextSign inFlow keyAllowed false
        (place (mark.after (List.replicate count ' ')) cs).1 := by
  induction count generalizing mark with
  | zero => rfl
  | succ count ih =>
    rw [List.replicate_succ, List.cons_append, place_cons rfl]
    exact ih (mark.next ' ')

/-- Whether a lexer stops at the character wherever it stands. -/
def startsSign (c : Char) : Bool :=
  !(isBlankOrBreak c || c == '#' || c == byteOrderMark)

/-- A sign is not passed. -/
theorem toNextSign_sign {c : Char} {mark : Mark} (h : startsSign c) (inFlow keyAllowed : Bool)
    (gs : List Glyph) :
    toNextSign inFlow keyAllowed false (⟨c, mark⟩ :: gs) = (keyAllowed, ⟨c, mark⟩ :: gs) := by
  simp only [startsSign, isBlankOrBreak, isBlank, Bool.not_eq_true', Bool.or_eq_false_iff,
    beq_eq_false_iff_ne] at h
  obtain ⟨⟨⟨⟨hspace, htab⟩, hbreak⟩, hhash⟩, hmark⟩ := h
  rw [toNextSign]
  simp [hspace, htab, hbreak, hhash, hmark]

/-- What is passed over stands before what is left. -/
theorem toNextSign_suffix (inFlow keyAllowed inComment : Bool) (gs : List Glyph) :
    (toNextSign inFlow keyAllowed inComment gs).2 <:+ gs := by
  fun_induction toNextSign inFlow keyAllowed inComment gs with
  | case1 => exact List.suffix_rfl
  | case2 _ _ _ _ _ ih => exact ih.trans (List.suffix_cons _ _)
  | case3 _ _ _ _ ih => exact ih.trans (List.suffix_cons _ _)
  | case4 _ _ _ _ _ _ _ ih => exact ih.trans (List.suffix_cons _ _)
  | case5 _ _ _ _ _ _ _ _ ih => exact ih.trans (List.suffix_cons _ _)
  | case6 _ _ _ _ _ _ _ _ _ ih => exact ih.trans (List.suffix_cons _ _)
  | case7 => exact List.suffix_rfl

/-- Where a key may start, one may start after what is passed over. -/
theorem toNextSign_keyAllowed (inFlow inComment : Bool) (gs : List Glyph) :
    (toNextSign inFlow true inComment gs).1 = true := by
  induction gs generalizing inComment with
  | nil => rfl
  | cons g gs ih =>
    rw [toNextSign]
    split
    · exact ih false
    split
    · exact ih true
    split
    · exact ih false
    split
    · exact ih true
    split
    · exact ih false
    · rfl

/-! ## Comments -/

/-- The part of a line that a character stands in. -/
inductive LinePart where
  | start
  | indent
  | comment
deriving DecidableEq, Repr

/-- Whether a text that goes on in the given part of a line has no sign: each line is blank or
starts a comment after spaces. A byte order mark may stand at the start of a line. -/
def staysBlank : LinePart → List Char → Bool
  | _, [] => true
  | part, c :: cs =>
      if endsLine c then staysBlank .start cs
      else match part with
        | .comment => staysBlank .comment cs
        | .indent => if c == ' ' then staysBlank .indent cs else c == '#' && staysBlank .comment cs
        | .start =>
            if c == ' ' || c == byteOrderMark then staysBlank .indent cs
            else c == '#' && staysBlank .comment cs

/-- After a line break, a text goes on at the start of a line. -/
theorem staysBlank_endsLine {c : Char} (hc : endsLine c) (part : LinePart) (cs : List Char) :
    staysBlank part (c :: cs) = staysBlank .start cs := by
  rw [staysBlank.eq_def]
  exact if_pos hc

/-- Inside a comment, a character is passed unless it ends the line. -/
theorem toNextSign_inComment {c : Char} (hc : isBreak c = false) (keyAllowed : Bool)
    (mark : Mark) (gs : List Glyph) :
    toNextSign false keyAllowed true (⟨c, mark⟩ :: gs) = toNextSign false keyAllowed true gs := by
  rw [toNextSign]
  simp [hc]

/-- A number sign starts a comment. -/
theorem toNextSign_hash (keyAllowed : Bool) (mark : Mark) (gs : List Glyph) :
    toNextSign false keyAllowed false (⟨'#', mark⟩ :: gs) = toNextSign false keyAllowed true gs :=
  by simp [toNextSign, isBreak]

/-- A byte order mark at the start of a line is passed. -/
theorem toNextSign_byteOrderMark (keyAllowed : Bool) {mark : Mark} (h : mark.column = 0)
    (gs : List Glyph) :
    toNextSign false keyAllowed false (⟨byteOrderMark, mark⟩ :: gs) =
      toNextSign false keyAllowed false gs := by
  rw [toNextSign]
  simp [h, byteOrderMark, isBreak]

/-- In the given part of a line, a text and the line feed after it are passed over. -/
def PassesOver (part : LinePart) (cs : List Char) : Prop :=
  ∀ (keyAllowed : Bool) (mark : Mark), (part = .start → mark.column = 0) → ∀ rest : List Char,
    ∃ next : Mark, next.column = 0 ∧ mark.line < next.line ∧
      (place mark (cs ++ '\n' :: rest)).2 = (place next rest).2 ∧
      toNextSign false keyAllowed (part == .comment) (place mark (cs ++ '\n' :: rest)).1 =
        toNextSign false true false (place next rest).1

namespace PassesOver

variable {part : LinePart} {cs : List Char}

theorem nil (part : LinePart) : PassesOver part [] := by
  intro keyAllowed mark _ rest
  exact ⟨mark.nextLine 1, rfl, Nat.lt_succ_self _, rfl, toNextSign_newline keyAllowed _ mark rest⟩

/-- The text goes on behind a line break. If this is a carriage return, it takes a line feed after
it along. -/
theorem endsLine {c : Char} (hc : endsLine c) (h : PassesOver .start cs)
    (htail : ∀ tail, cs = '\n' :: tail → PassesOver .start tail) : PassesOver part (c :: cs) := by
  intro keyAllowed mark _ rest
  obtain ⟨b, width, ds, hb, hds, hplace⟩ := place_endsLine hc mark (cs ++ '\n' :: rest)
  have hline : mark.line < (mark.nextLine width).line := Nat.lt_succ_self _
  rw [List.cons_append, hplace, toNextSign_isBreak hb]
  rcases hds with rfl | ⟨-, hds⟩
  · obtain ⟨next, hcolumn, hnext, hafter⟩ := h true (mark.nextLine width) (fun _ => rfl) rest
    exact ⟨next, hcolumn, Nat.lt_trans hline hnext, hafter⟩
  · cases cs with
    | nil =>
      obtain rfl := (List.cons.inj hds).2
      exact ⟨mark.nextLine width, rfl, hline, rfl, rfl⟩
    | cons d tail =>
      obtain ⟨rfl, rfl⟩ := List.cons.inj hds
      obtain ⟨next, hcolumn, hnext, hafter⟩ :=
        htail tail rfl true (mark.nextLine width) (fun _ => rfl) rest
      exact ⟨next, hcolumn, Nat.lt_trans hline hnext, hafter⟩

/-- A character that does not end the line is passed over if it is not a sign where it stands. -/
theorem cons {c : Char} (next : LinePart) (hc : Yaml.endsLine c = false) (hnext : next ≠ .start)
    (hpassed : ∀ keyAllowed mark, (part = .start → mark.column = 0) → ∀ gs,
      toNextSign false keyAllowed (part == .comment) (⟨c, mark⟩ :: gs) =
        toNextSign false keyAllowed (next == .comment) gs)
    (h : PassesOver next cs) : PassesOver part (c :: cs) := by
  intro keyAllowed mark hcolumn rest
  rw [List.cons_append, place_cons hc, hpassed keyAllowed mark hcolumn]
  exact h keyAllowed (mark.next c) (fun hstart => absurd hstart hnext) rest

theorem comment {c : Char} (hc : Yaml.endsLine c = false) (h : PassesOver .comment cs) :
    PassesOver .comment (c :: cs) :=
  cons .comment hc (by decide) (fun keyAllowed mark _ gs =>
    toNextSign_inComment (isBreak_of_not_endsLine hc) keyAllowed mark gs) h

theorem space (hpart : part ≠ .comment) (h : PassesOver .indent cs) :
    PassesOver part (' ' :: cs) := by
  refine cons .indent rfl (by decide) (fun keyAllowed mark _ gs => ?_) h
  rw [beq_eq_false_iff_ne.mpr hpart]
  rfl

theorem byteOrderMark (h : PassesOver .indent cs) : PassesOver .start (byteOrderMark :: cs) :=
  cons .indent rfl (by decide) (fun keyAllowed _ hcolumn gs =>
    toNextSign_byteOrderMark keyAllowed (hcolumn rfl) gs) h

theorem hash (hpart : part ≠ .comment) (h : PassesOver .comment cs) :
    PassesOver part ('#' :: cs) := by
  refine cons .comment rfl (by decide) (fun keyAllowed mark _ gs => ?_) h
  rw [beq_eq_false_iff_ne.mpr hpart]
  exact toNextSign_hash keyAllowed mark gs

end PassesOver

/-- A text without signs, and the line feed after it, are passed over. -/
theorem toNextSign_staysBlank {part : LinePart} {cs : List Char} (h : staysBlank part cs) :
    PassesOver part cs := by
  -- the induction is on the length: a carriage return takes the line feed after it along
  induction hlength : cs.length using Nat.strongRecOn generalizing part cs with
  | ind length ih =>
  subst hlength
  match cs with
  | [] => exact .nil part
  | c :: cs =>
    have ihrest {part : LinePart} (h : staysBlank part cs) : PassesOver part cs :=
      ih cs.length (Nat.lt_succ_self _) h rfl
    cases hc : endsLine c with
    | true =>
      rw [staysBlank_endsLine hc] at h
      refine .endsLine hc (ihrest h) fun tail htail => ?_
      subst htail
      rw [staysBlank_endsLine rfl] at h
      exact ih tail.length (by simp only [List.length_cons]; omega) h rfl
    | false =>
      rw [staysBlank.eq_def] at h
      simp only [hc, Bool.false_eq_true, if_false] at h
      cases part with
      | comment => exact .comment hc (ihrest h)
      | indent =>
        by_cases hspace : c = ' '
        · subst hspace
          exact .space (by decide) (ihrest h)
        · obtain ⟨rfl, h⟩ : c = '#' ∧ staysBlank .comment cs := by simpa [hspace] using h
          exact .hash (by decide) (ihrest h)
      | start =>
        by_cases hspace : c = ' '
        · subst hspace
          exact .space (by decide) (ihrest h)
        by_cases hmark : c = byteOrderMark
        · subst hmark
          exact .byteOrderMark (ihrest h)
        · obtain ⟨rfl, h⟩ : c = '#' ∧ staysBlank .comment cs := by
            simpa [hspace, hmark] using h
          exact .hash (by decide) (ihrest h)

/-! ## Comments of streams -/

/-- Whether a comment has no sign: all its characters are allowed, and where YAML breaks its lines
further, each part is blank or a comment. -/
def Inert (text : String) : Prop :=
  ∀ line ∈ Text.lines text,
    line.toList.all isAllowed ∧ staysBlank .comment line.toList

instance (text : String) : Decidable (Inert text) :=
  inferInstanceAs (Decidable (∀ line ∈ Text.lines text, _))

/-- From the start of a line, a text is passed over as far as to `rest` at the place `next`. -/
structure Passed (mark : Mark) (cs : List Char) (next : Mark) (rest : List Char) : Prop where
  column : next.column = 0
  line : mark.line ≤ next.line
  finish : (place mark cs).2 = (place next rest).2
  signs : toNextSign false true false (place mark cs).1 =
    toNextSign false true false (place next rest).1

theorem Passed.refl {mark : Mark} (h : mark.column = 0) (cs : List Char) :
    Passed mark cs mark cs := ⟨h, Nat.le_refl _, rfl, rfl⟩

theorem Passed.trans {mark₁ mark₂ mark₃ : Mark} {cs₁ cs₂ cs₃ : List Char}
    (h₁ : Passed mark₁ cs₁ mark₂ cs₂) (h₂ : Passed mark₂ cs₂ mark₃ cs₃) :
    Passed mark₁ cs₁ mark₃ cs₃ :=
  ⟨h₂.column, Nat.le_trans h₁.line h₂.line, h₁.finish.trans h₂.finish,
    h₁.signs.trans h₂.signs⟩

/-- The line of a comment is passed over. -/
theorem passed_commentLine {line : List Char} (h : staysBlank .comment line) (indent : Nat)
    (mark : Mark) (rest : List Char) :
    ∃ next, Passed mark (List.replicate indent ' ' ++ '#' :: line ++ '\n' :: rest) next rest := by
  obtain ⟨next, hcolumn, hline, hfinish, hsigns⟩ :=
    toNextSign_staysBlank h true ((mark.after (List.replicate indent ' ')).next '#') (by simp) rest
  refine ⟨next, hcolumn, ?_, ?_, ?_⟩
  · have hmark : ((mark.after (List.replicate indent ' ')).next '#').line = mark.line := by
      simp [Mark.next]
    omega
  · rw [List.append_assoc, place_spaces, List.cons_append, place_cons rfl]
    exact hfinish
  · rw [List.append_assoc, toNextSign_spaces, List.cons_append, place_cons rfl, toNextSign_hash]
    exact hsigns

/-- The characters of a line of a comment. -/
theorem commentLine_toList (indent : Nat) (line : String) :
    ∃ body, (body = line.toList ∨ body = ' ' :: line.toList) ∧
      (spaces indent ++ (if line.isEmpty then "#" else "# " ++ line) ++ "\n").toList =
        List.replicate indent ' ' ++ '#' :: body ++ ['\n'] := by
  by_cases hline : line.isEmpty = true
  · obtain rfl := String.isEmpty_iff.mp hline
    exact ⟨[], .inl rfl, by simp [spaces]⟩
  · exact ⟨' ' :: line.toList, .inr rfl, by simp [spaces, hline]⟩

/-- An inert comment is passed over. -/
theorem passed_commentText {text : String} (h : Inert text) (indent : Nat) {mark : Mark}
    (hcolumn : mark.column = 0) (rest : List Char) :
    ∃ next, Passed mark ((commentText indent text).toList ++ rest) next rest := by
  rw [Inert] at h
  rw [commentText, String.toList_join]
  generalize Text.lines text = lines at h ⊢
  induction lines generalizing mark with
  | nil => exact ⟨mark, .refl hcolumn rest⟩
  | cons line lines ih =>
    obtain ⟨body, hbody, htext⟩ := commentLine_toList indent line
    have hstays : staysBlank .comment body := by
      have hline := (h line (by simp)).2
      rcases hbody with rfl | rfl
      · exact hline
      · exact hline
    rw [List.map_cons, List.flatMap_cons, htext, List.append_assoc, List.append_assoc]
    obtain ⟨mid, hmid⟩ := passed_commentLine hstays indent mark
      ((lines.map fun line => spaces indent ++ (if line.isEmpty then "#" else "# " ++ line) ++
        "\n").flatMap String.toList ++ rest)
    obtain ⟨next, hnext⟩ := ih hmid.column fun other hother => h other (by simp [hother])
    exact ⟨next, hmid.trans hnext⟩

/-- Inert comments are passed over. -/
theorem passed_commentsText {texts : List String} (h : ∀ text ∈ texts, Inert text)
    (indent : Nat) {mark : Mark} (hcolumn : mark.column = 0) (rest : List Char) :
    ∃ next, Passed mark ((commentsText indent texts).toList ++ rest) next rest := by
  rw [commentsText, String.toList_join]
  induction texts generalizing mark with
  | nil => exact ⟨mark, .refl hcolumn rest⟩
  | cons text texts ih =>
    rw [List.map_cons, List.flatMap_cons, List.append_assoc]
    obtain ⟨mid, hmid⟩ := passed_commentText (h text (by simp)) indent hcolumn
      ((texts.map (commentText indent)).flatMap String.toList ++ rest)
    obtain ⟨next, hnext⟩ := ih (fun other hother => h other (by simp [hother])) hmid.column
    exact ⟨next, hmid.trans hnext⟩

end ConfigSchema.Yaml
