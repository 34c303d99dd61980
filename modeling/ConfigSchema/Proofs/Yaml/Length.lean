import ConfigSchema.Proofs.Outcome
import ConfigSchema.Yaml.Scalar.Block
import ConfigSchema.Yaml.Scalar.Plain
import ConfigSchema.Yaml.Token.Name
import Mathlib.Data.List.TakeDrop

/-!
# What is read is no longer than its spelling

A scanner takes what it reads out of the text: a scalar has at most as many characters as the glyphs
that spell it, and less if it has quotes or an indicator.

## Main definitions

- `Gap.size`, `BlockScan.size` — how many characters a gap and an open block scalar may stand for
- `Leaves` — a bound on what a scan leaves

## Main statements

- `length_scanPlain`, `length_scanQuoted`, `length_scanBlock` — the text and what is left
- `leaves_scanAnchor`, `leaves_scanTag`, `leaves_scanDirective` — what is left
-/

namespace ConfigSchema.Yaml

/-! ## Plain and quoted scalars -/

namespace Gap

/-- How many characters a gap may stand for. -/
def size (gap : Gap) : Nat := gap.blanks.length + gap.first.toList.length + gap.more.length

@[simp] theorem size_empty : ({} : Gap).size = 0 := rfl

@[simp] theorem size_escaped : Gap.escaped.size = 0 := rfl

theorem length_folded (gap : Gap) : gap.folded.length ≤ gap.size := by
  rw [folded, size]
  split
  · split
    · rename_i hfirst
      split
      · simp only [hfirst, Option.toList_some, List.length_cons, List.length_nil]
        omega
      · omega
    · rename_i hfirst
      simp only [hfirst, Option.toList_some, List.length_append, List.length_cons,
        List.length_nil]
      omega
    · omega
  · omega

theorem length_folded_append (gap : Gap) (text : List Char) :
    (gap.folded ++ text).length ≤ gap.size + text.length := by
  have hfolded := gap.length_folded
  rw [List.length_append]
  omega

theorem size_addBlank (gap : Gap) (c : Char) : (gap.addBlank c).size ≤ gap.size + 1 := by
  rw [addBlank]
  split
  · omega
  · simp only [size, List.length_cons]
    omega

theorem size_addBreak (gap : Gap) (c : Char) : (gap.addBreak c).size ≤ gap.size + 1 := by
  rw [addBreak]
  split
  · simp only [size, List.length_cons]
    omega
  · simp [size]

end Gap

/-- A plain scalar and what is left are no longer than the text. -/
theorem length_scanPlain {inFlow : Bool} {margin : Nat} {text : List Char} {gap : Gap}
    {gs : List Glyph} {scan : PlainScan}
    (h : scanPlain inFlow margin text gap gs = .ok scan) :
    scan.text.toList.length + scan.rest.length ≤ text.length + gap.size + gs.length ∧
      scan.rest.length ≤ gs.length := by
  induction gs generalizing text gap with
  | nil =>
    rw [scanPlain] at h
    cases h
    simp
  | cons g gs ih =>
    rw [scanPlain] at h
    have hfolded := gap.length_folded
    split at h
    · split at h
      · cases h
      · have hsize := gap.size_addBlank g.char
        have hlength := ih h
        rw [List.length_cons]
        exact ⟨by omega, by omega⟩
    split at h
    · have hsize := gap.size_addBreak g.char
      have hlength := ih h
      rw [List.length_cons]
      exact ⟨by omega, by omega⟩
    split at h
    · cases h
      simp only [String.toList_ofList, List.length_reverse, List.length_cons]
      exact ⟨by omega, Nat.le_refl _⟩
    split at h
    · cases h
    split at h
    · cases h
      simp only [String.toList_ofList, List.length_reverse, List.length_cons]
      exact ⟨by omega, Nat.le_refl _⟩
    · have hlength := ih h
      simp only [List.length_cons, List.length_append, Gap.size_empty] at hlength ⊢
      exact ⟨by omega, by omega⟩

/-- A quoted scalar and what is left are shorter than the text. -/
theorem length_scanQuoted {double : Bool} {finish : Mark} {text : List Char} {gap : Gap}
    {code : Option CodeScan} {gs rest : List Glyph} {read : String}
    (h : scanQuoted double finish text gap code gs = .ok (read, rest)) :
    read.toList.length + rest.length + 1 ≤ text.length + gap.size + gs.length := by
  fun_induction scanQuoted double finish text gap code gs with
  | case1 | case2 | case3 | case5 | case9 | case14 | case18 => cases h
  | case4 _ _ _ _ _ _ _ _ _ _ _ ih | case6 _ _ _ _ _ _ _ _ _ ih =>
    have hlength := ih h
    simp only [List.length_cons, Gap.size_empty] at hlength ⊢
    omega
  | case7 _ gap e _ _ ih =>
    have hsize := gap.size_addBlank e.char
    have hlength := ih h
    rw [List.length_cons]
    omega
  | case8 _ gap e _ _ _ ih =>
    have hsize := gap.size_addBreak e.char
    have hlength := ih h
    rw [List.length_cons]
    omega
  | case11 text gap _ _ _ read | case12 text gap _ _ _ read | case13 text gap _ _ _ _ _ read =>
    have hread : read.length ≤ gap.size + text.length := gap.length_folded_append text
    cases h
    simp only [String.toList_ofList, List.length_reverse, List.length_cons, List.length_nil]
    omega
  | case10 text gap _ _ _ read _ _ _ _ _ ih | case15 text gap _ _ _ read _ _ _ _ _ _ _ ih
  | case16 text gap _ _ _ read _ _ _ _ _ _ _ _ _ ih
  | case17 text gap _ _ _ read _ _ _ _ _ _ _ _ _ _ _ ih
  | case19 text gap _ _ _ _ _ read _ _ _ ih =>
    have hread : read.length ≤ gap.size + text.length := gap.length_folded_append text
    have hlength := ih h
    simp only [List.length_cons, Gap.size_empty, Gap.size_escaped] at hlength ⊢
    omega

/-! ## Block scalars -/

theorem length_dropWhile_le {α : Type} (p : α → Bool) (xs : List α) :
    (xs.dropWhile p).length ≤ xs.length := (List.dropWhile_suffix p).length_le

theorem length_dropBlanks (gs : List Glyph) : (dropBlanks gs).length ≤ gs.length :=
  length_dropWhile_le _ gs

theorem length_dropComment (gs : List Glyph) : (dropComment gs).length ≤ gs.length := by
  rw [dropComment]
  split
  · exact length_dropWhile_le _ gs
  · exact Nat.le_refl _

theorem length_dropBreak (gs : List Glyph) : (dropBreak gs).length ≤ gs.length := by
  cases gs with
  | nil => exact Nat.le_refl _
  | cons g gs =>
    rw [dropBreak]
    split
    · exact Nat.le_succ _
    · exact Nat.le_refl _

theorem length_scanChomp (gs : List Glyph) : (scanChomp gs).2.length ≤ gs.length := by
  cases gs with
  | nil => exact Nat.le_refl _
  | cons g gs =>
    rw [scanChomp]
    split
    · exact Nat.le_succ _
    split
    · exact Nat.le_succ _
    · exact Nat.le_refl _

theorem length_scanIndent {gs rest : List Glyph} {indent : Option Nat}
    (h : scanIndent gs = .ok (indent, rest)) : rest.length ≤ gs.length := by
  cases gs with
  | nil =>
    cases h
    exact Nat.le_refl _
  | cons g gs =>
    rw [scanIndent] at h
    split at h
    · cases h
    split at h
    · cases h
      exact Nat.le_succ _
    · cases h
      exact Nat.le_refl _

/-- The header of a block scalar is taken out of the text. -/
theorem length_scanBlockHeader {finish : Mark} {gs rest : List Glyph} {header : BlockHeader}
    (h : scanBlockHeader finish gs = .ok (header, rest)) : rest.length ≤ gs.length := by
  have hchomp := length_scanChomp gs
  rw [scanBlockHeader] at h
  generalize scanChomp gs = chomp at h hchomp
  obtain ⟨early, before⟩ := chomp
  obtain ⟨⟨indent, after⟩, hindent, h⟩ := Outcome.bind_eq_ok.mp h
  have hafter := length_scanIndent hindent
  have hlate : (if early.isNone && indent.isSome then scanChomp after else (none, after)).2.length ≤
      after.length := by
    split
    · exact length_scanChomp after
    · exact Nat.le_refl _
  dsimp only at h hchomp
  generalize (if early.isNone && indent.isSome then scanChomp after else (none, after)) =
    late at h hlate
  have hblanks := length_dropBlanks late.2
  have hcomment := length_dropComment (dropBlanks late.2)
  have hbreak := length_dropBreak (dropComment (dropBlanks late.2))
  by_cases hend : startsBreak (dropComment (dropBlanks late.2)) = true
  · rw [if_pos hend] at h
    cases h
    omega
  · rw [if_neg hend] at h
    cases h

/-- How many characters an open block scalar may stand for. -/
def BlockScan.size (scan : BlockScan) : Nat :=
  scan.text.length + scan.lineEnd.toList.length + scan.breaks.length

theorem BlockScan.size_startLine (literal : Bool) (scan : BlockScan) (c : Char) :
    (scan.startLine literal c).size ≤ scan.size + 1 := by
  have hjoined (folds : Bool) (hfolds : folds = true → scan.lineEnd = some '\n') :
      (if folds then (if scan.breaks.isEmpty then ' ' :: scan.text else scan.text)
        else scan.lineEnd.toList ++ scan.text).length ≤
          scan.lineEnd.toList.length + scan.text.length := by
    split
    · rename_i hthen
      rw [hfolds hthen]
      split
      · simp only [Option.toList_some, List.length_cons, List.length_nil]
        omega
      · simp
    · simp
  have hsize := hjoined (!literal && scan.lineEnd == some '\n' && !scan.startedBlank && !isBlank c)
    (by simp only [Bool.and_eq_true, beq_iff_eq]; exact fun h => h.1.1.2)
  simp only [startLine, size, List.length_cons, List.length_append, Option.toList_none,
    List.length_nil]
  omega

/-- The lines of a block scalar and what is left are no longer than the text. -/
theorem length_scanBlockLines {literal : Bool} {margin : Nat} {scan last : BlockScan}
    {inLine : Bool} {gs rest : List Glyph}
    (h : scanBlockLines literal margin scan inLine gs = .ok (last, rest)) :
    last.size + rest.length ≤ scan.size + gs.length := by
  induction gs generalizing scan inLine with
  | nil =>
    rw [scanBlockLines] at h
    cases h
    split
    · simp [BlockScan.size]
      omega
    · simp
  | cons g gs ih =>
    rw [scanBlockLines] at h
    split at h
    · split at h
      · have hlength := ih h
        simp only [BlockScan.size, Option.toList_some, List.length_cons,
          List.length_nil] at hlength ⊢
        omega
      · have hlength := ih h
        simp only [BlockScan.size, List.length_cons] at hlength ⊢
        omega
    dsimp only at h
    split at h
    · have hlength := ih h
      rw [List.length_cons]
      omega
    split at h
    · cases h
    split at h
    · have hlength := ih h
      simp only [BlockScan.size, List.length_cons] at hlength ⊢
      omega
    split at h
    · have hlength := ih h
      have hstart := BlockScan.size_startLine literal { scan with
        indent := some (scan.indent.getD (max (max scan.widest g.mark.column) (max margin 1))) }
        g.char
      simp only [BlockScan.size, List.length_cons] at hlength hstart ⊢
      omega
    · cases h
      exact Nat.le_refl _

/-- A block scalar and what is left are no longer than the text after the indicator. -/
theorem length_scanBlock {literal : Bool} {parent : Option Nat} {finish : Mark}
    {gs rest : List Glyph} {text : String}
    (h : scanBlock literal parent finish gs = .ok (text, rest)) :
    text.toList.length + rest.length ≤ gs.length := by
  rw [scanBlock] at h
  obtain ⟨⟨header, after⟩, hheader, h⟩ := Outcome.bind_eq_ok.mp h
  obtain ⟨⟨last, rest'⟩, hlines, h⟩ := Outcome.bind_eq_ok.mp h
  have hafter := length_scanBlockHeader hheader
  have hlength := length_scanBlockLines hlines
  cases h
  have hresult : (last.result header.chomp).toList.length ≤ last.size := by
    rw [BlockScan.result, BlockScan.size]
    split <;> split <;> simp <;> omega
  simp only [BlockScan.size, List.length_nil, Option.toList_none] at hlength
  simp only [BlockScan.size] at hresult
  omega

/-! ## Anchors, tags and directives -/

theorem length_span_le {α : Type} (p : α → Bool) (xs : List α) :
    (xs.span p).2.length ≤ xs.length := by
  rw [List.span_eq_takeWhile_dropWhile]
  exact length_dropWhile_le p xs

theorem length_scanName (gs : List Glyph) : (scanName gs).2.length ≤ gs.length :=
  length_span_le _ gs

/-- The scan reads something that satisfies `good` and leaves at most `count` glyphs, if it
succeeds. -/
def Leaves {α : Type} (good : α → Prop) (count : Nat) (scan : Except Fault (α × List Glyph)) :
    Prop :=
  ∀ read rest, scan = .ok (read, rest) → good read ∧ rest.length ≤ count

/-- Any outcome of a scan is good. -/
abbrev any {α : Type} : α → Prop := fun _ => True

namespace Leaves

variable {α β : Type} {count : Nat} {good : α → Prop} {good' : β → Prop}
  {scan other : Except Fault (α × List Glyph)}

theorem ok {read : α} {rest : List Glyph} (hread : good read) (h : rest.length ≤ count) :
    Leaves good count (.ok (read, rest)) := by
  intro read' rest' heq
  cases heq
  exact ⟨hread, h⟩

theorem error (fault : Fault) : Leaves good count (.error fault) := fun _ _ heq => nomatch heq

theorem ite (c : Prop) [Decidable c] (hthen : Leaves good count scan)
    (helse : Leaves good count other) : Leaves good count (if c then scan else other) := by
  split
  · exact hthen
  · exact helse

/-- A further scan goes on with what the first one leaves. -/
theorem bind (h : Leaves good count scan) {more : α × List Glyph → Except Fault (β × List Glyph)}
    (hmore : ∀ read rest, good read → rest.length ≤ count →
      Leaves good' count (more (read, rest))) :
    Leaves good' count (scan >>= more) := by
  intro read rest heq
  obtain ⟨⟨early, after⟩, hearly, heq⟩ := Outcome.bind_eq_ok.mp heq
  obtain ⟨hread, hrest⟩ := h early after hearly
  exact hmore early after hread hrest read rest heq

theorem mono {more : Nat} (h : Leaves good count scan) (hcount : count ≤ more) :
    Leaves good more scan :=
  fun read rest heq => ⟨(h read rest heq).1, Nat.le_trans (h read rest heq).2 hcount⟩

end Leaves

theorem leaves_scanAnchor (finish : Mark) (gs : List Glyph) :
    Leaves any gs.length (scanAnchor finish gs) :=
  .ite _ (.ok trivial (length_scanName gs)) (.error _)

theorem leaves_scanUri (verbatim : Bool) (finish : Mark) (octets : Octets) (due : Nat)
    (gs : List Glyph) : Leaves any gs.length (scanUri verbatim finish octets due gs) := by
  fun_induction scanUri verbatim finish octets due gs with
  | case1 | case11 => exact .ok trivial (Nat.le_refl _)
  | case2 | case3 | case6 | case7 | case8 | case9 => exact .error _
  | case4 _ _ _ _ _ _ _ _ _ _ _ _ _ _ _ ih | case5 _ _ _ _ _ _ _ _ _ _ _ _ _ _ ih
  | case10 _ _ _ _ _ _ _ ih =>
    exact ih.mono (by simp only [List.length_cons]; omega)

theorem leaves_scanUriNonempty (verbatim : Bool) (finish : Mark) (gs : List Glyph) :
    Leaves any gs.length (scanUriNonempty verbatim finish gs) :=
  .bind (leaves_scanUri verbatim finish [] 0 gs) fun _ _ _ hrest =>
    .ite _ (.error _) (.ok trivial hrest)

theorem length_drop_le {gs : List Glyph} {count : Nat} (h : gs.length ≤ count) (n : Nat) :
    (gs.drop n).length ≤ count := by
  rw [List.length_drop]
  omega

/-- The tokens of tags. -/
def TokenKind.IsTag (kind : TokenKind) : Prop := ∃ handle suffix, kind = .tag handle suffix

theorem leaves_scanVerbatimTag (finish : Mark) (gs : List Glyph) :
    Leaves TokenKind.IsTag gs.length (scanVerbatimTag finish gs) := by
  refine .bind (leaves_scanUriNonempty true finish gs) fun _ _ _ hrest => ?_
  exact .ite _ (.ok ⟨_, _, rfl⟩ (length_drop_le hrest 1)) (.error _)

theorem leaves_scanShortTag (finish : Mark) (gs : List Glyph) :
    Leaves TokenKind.IsTag gs.length (scanShortTag finish gs) := by
  have hname := length_scanName gs
  refine .ite _ ?_ ?_
  · refine .bind ((leaves_scanUriNonempty false finish _).mono (length_drop_le hname 1))
      fun _ _ _ hrest => .ok ⟨_, _, rfl⟩ hrest
  · refine .bind ((leaves_scanUri false finish [] 0 _).mono hname) fun _ _ _ hrest => ?_
    exact .ite _ (.ok ⟨_, _, rfl⟩ hrest) (.ok ⟨_, _, rfl⟩ hrest)

/-- A tag is taken out of the text. -/
theorem leaves_scanTag (inFlow : Bool) (finish : Mark) (gs : List Glyph) :
    Leaves TokenKind.IsTag gs.length (scanTag inFlow finish gs) := by
  have hend (kind : TokenKind) (rest : List Glyph) (hkind : kind.IsTag)
      (hrest : rest.length ≤ gs.length) :
      Leaves TokenKind.IsTag gs.length
        (if startsBlank rest || (inFlow && startsWith ',' rest) then .ok (kind, rest)
          else .error (.at (hereOr finish rest) .tagSpaceMissing)) :=
    .ite _ (.ok hkind hrest) (.error _)
  refine .ite _ (.bind ?_ hend) (.bind (leaves_scanShortTag finish gs) hend)
  exact (leaves_scanVerbatimTag finish _).mono (length_drop_le (Nat.le_refl _) 1)

theorem leaves_scanVersionNumber (finish : Mark) (gs : List Glyph) :
    Leaves any gs.length (scanVersionNumber finish gs) := by
  have hdigits := length_span_le (·.char.isDigit) gs
  rw [scanVersionNumber]
  generalize gs.span (·.char.isDigit) = scan at hdigits
  dsimp only
  split
  · exact .error _
  · exact .ite _ (.error _) (.ok trivial hdigits)

/-- The tokens of directives. -/
def TokenKind.IsDirective : TokenKind → Prop
  | .versionDirective _ _ => True
  | .tagDirective _ _ => True
  | _ => False

theorem leaves_scanVersion (finish : Mark) (gs : List Glyph) :
    Leaves TokenKind.IsDirective gs.length (scanVersion finish gs) := by
  refine .bind ((leaves_scanVersionNumber finish _).mono (length_dropBlanks gs))
    fun _ rest _ hrest => .ite _ ?_ (.error _)
  refine .bind ((leaves_scanVersionNumber finish _).mono (length_drop_le hrest 1))
    fun _ _ _ hrest => .ok trivial hrest

theorem leaves_scanHandle (finish : Mark) (gs : List Glyph) :
    Leaves any gs.length (scanHandle finish gs) := by
  have hname := Nat.le_trans (length_scanName (gs.drop 1)) (length_drop_le (Nat.le_refl _) 1)
  refine .ite _ (.error _) ?_
  exact .ite _ (.ok trivial (length_drop_le hname 1)) (.ite _ (.ok trivial hname) (.error _))

theorem leaves_scanHandleMeaning (finish : Mark) (gs : List Glyph) :
    Leaves TokenKind.IsDirective gs.length (scanHandleMeaning finish gs) := by
  refine .bind ((leaves_scanHandle finish _).mono (length_dropBlanks gs))
    fun _ rest _ hrest => .ite _ (.error _) ?_
  refine .bind ((leaves_scanUriNonempty true finish _).mono
    (Nat.le_trans (length_dropBlanks rest) hrest)) fun _ _ _ hrest => ?_
  exact .ite _ (.ok trivial hrest) (.error _)

/-- A directive is taken out of the text. -/
theorem leaves_scanDirective (finish : Mark) (gs : List Glyph) :
    Leaves TokenKind.IsDirective gs.length (scanDirective finish gs) := by
  have hname := length_scanName gs
  rw [scanDirective]
  generalize scanName gs = scan at hname
  obtain ⟨name, after⟩ := scan
  have hend (kind : TokenKind) (rest : List Glyph) (hkind : kind.IsDirective)
      (hrest : rest.length ≤ gs.length) :
      Leaves TokenKind.IsDirective gs.length (if startsBreak (dropComment (dropBlanks rest)) then
        .ok (kind, dropBreak (dropComment (dropBlanks rest)))
        else .error (.at (hereOr finish (dropComment (dropBlanks rest))) .directiveTrailing)) := by
    have hblanks := length_dropBlanks rest
    have hcomment := length_dropComment (dropBlanks rest)
    have hbreak := length_dropBreak (dropComment (dropBlanks rest))
    exact .ite _ (.ok hkind (by omega)) (.error _)
  refine .ite _ (.error _) (.ite _ (.error _) (.ite _ ?_ (.ite _ ?_ (.error _))))
  · exact .bind ((leaves_scanVersion finish _).mono hname) hend
  · exact .bind ((leaves_scanHandleMeaning finish _).mono hname) hend

end ConfigSchema.Yaml
