import Mathlib.Data.List.TakeWhile
import ConfigSchema.Proofs.Yaml.Lexer.Block
import ConfigSchema.Proofs.Yaml.Lexer.Progress

/-!
# Whole texts

At the end of a text the open blocks are closed, and the tokens of the text are complete.

## Main statements

- `Lexer.act_end` — the end of a text
- `Lexer.tokenize_of_comes`, `Lexer.Reached.tokenize_eq` — the tokens of a text of which all signs
  have been read
-/

namespace ConfigSchema.Yaml.Lexer

variable {finish mark : Mark} {lexer : Lexer}

/-- Outside of brackets, a number of blocks can be closed and then all others. -/
theorem closeBlocks_closeBlocks (houter : lexer.outerKeys = []) (now later : Mark)
    (isInner : Nat → Bool) :
    ∃ held, (lexer.closeBlocks now isInner).closeBlocks later (fun _ => true) =
        { lexer with held := held, indents := [] } ∧
      held.map Token.kind =
        lexer.held.map Token.kind ++ lexer.indents.map fun _ => .blockEnd := by
  have hflow : lexer.inFlow = false := by simp [inFlow, houter]
  have hflow' : (lexer.closeBlocks now isInner).inFlow = false := by
    rw [closeBlocks, hflow]
    exact hflow
  have hall (columns : List Nat) : columns.span (fun _ => true) = (columns, []) := by
    rw [List.span_eq_takeWhile_dropWhile, List.takeWhile_eq_self_iff.mpr (by simp),
      List.dropWhile_eq_nil_iff.mpr (by simp)]
  have hinner := congrArg (List.map fun _ => TokenKind.blockEnd)
    (List.takeWhile_append_dropWhile (p := isInner) (l := lexer.indents))
  refine ⟨lexer.held ++ (lexer.indents.takeWhile isInner).map (fun _ => ⟨.blockEnd, now⟩) ++
    (lexer.indents.dropWhile isInner).map fun _ => ⟨.blockEnd, later⟩, ?_, ?_⟩
  · rw [closeBlocks, hflow', closeBlocks, hflow]
    simp only [Bool.false_eq_true, if_false, hall, List.span_eq_takeWhile_dropWhile]
  · rw [← hinner]
    simp only [List.map_append, List.map_map, List.append_assoc]
    rfl

/-- Nothing but the end of a text is left at its end. -/
theorem dispatch_nil (hrest : lexer.rest = []) (now : Mark) :
    lexer.dispatch finish now = lexer.fetchEnd finish := by
  rw [dispatch]
  split
  · rfl
  · simp_all

/-- At the end of a text, all blocks are closed. -/
theorem act_end (hrest : lexer.rest = []) (hkey : Harmless mark lexer.key)
    (houter : lexer.outerKeys = []) :
    ∃ last, lexer.act finish = .ok last ∧ last.ended = true ∧ last.key = none ∧
      last.outerKeys = [] ∧ last.held.map Token.kind =
        lexer.held.map Token.kind ++ lexer.indents.map (fun _ => .blockEnd) ++ [.streamEnd] := by
  obtain ⟨held, hclosed, hkinds⟩ := closeBlocks_closeBlocks houter finish (endMark finish)
    (finish.column < ·)
  have hrest' : (lexer.closeBlocks finish (finish.column < ·)).rest = [] := by
    rw [rest_closeBlocks, hrest]
  have hdrop := @dropKey_harmless mark { lexer with held := held, indents := [] } hkey
    (endMark finish)
  refine ⟨{ lexer with
    held := held ++ [⟨.streamEnd, endMark finish⟩]
    indents := []
    key := none
    keyAllowed := false
    ended := true }, ?_, rfl, rfl, houter, ?_⟩
  · have hmark : hereOr finish lexer.rest = finish := by
      rw [hrest]
      rfl
    rw [act, hmark, dispatch_nil hrest', fetchEnd, hclosed, hdrop]
    rfl
  · simp [hkinds]

/-- A text of which all signs have been read has the tokens that are held in the end. -/
theorem tokenize_of_comes {source : Source} {at_ last : Lexer}
    (h : Comes source.finish { rest := source.glyphs } at_)
    (hact : at_.act source.finish = .ok last) (hended : last.ended = true)
    (hkey : last.key = none) (houter : last.outerKeys = []) :
    tokenize source = (last.held, none) := by
  obtain ⟨count, hsteps⟩ := Steps.of_comes h hact
  have hcount := hsteps.count_le
  have hsettled : Settled [] { rest := source.glyphs } := ⟨rfl, by simp⟩
  have hfuel : count < source.glyphs.length + 2 := Nat.lt_succ_of_le hcount
  obtain ⟨tokens, htokens, hheld⟩ := run_of_steps hsettled hsteps hended hkey houter hfuel
  rw [tokenize, htokens, hheld]
  rfl

/-- Where the end of a text has been reached, its tokens are those held, and the ends of the open
blocks. -/
theorem Reached.tokenize_eq {cs : List Char} {kinds : List TokenKind} {indents : List Nat}
    {column : Nat} (h : Reached (place {} cs).2 [] kinds indents column lexer)
    (hcomes : Comes (place {} cs).2 { rest := (place {} cs).1 } lexer) :
    ∃ tokens, tokenize ⟨(place {} cs).1, (place {} cs).2⟩ = (tokens, none) ∧
      tokens.map Token.kind = kinds ++ indents.map (fun _ => .blockEnd) ++ [.streamEnd] := by
  obtain ⟨start, -, -, hrest⟩ := h.position
  obtain ⟨inner, -, hblocks, rfl⟩ := h.blocks
  have hkey : Harmless start lexer.key := by
    rw [h.key]
    simp [Harmless]
  obtain ⟨last, hact, hended, hnokey, houter, hkinds⟩ := act_end hrest hkey h.outerKeys
  refine ⟨last.held, tokenize_of_comes hcomes hact hended hnokey houter, ?_⟩
  rw [hkinds, hblocks]
  simp

end ConfigSchema.Yaml.Lexer
