import ConfigSchema.Proofs.Yaml.Scalar.Plain
import ConfigSchema.Text.Quoted

/-!
# Quoted scalars in block text

A text between double quotes is read back as it is: each escape stands for the character that it
was written for, and the other characters for themselves.

## Main definitions

- `quadValue?` — the number that four hexadecimal digits spell

## Main statements

- `quadValue_hexCode` — the code of a small number spells this number
- `scanQuoted_yamlEscape` — a quoted text is read back
-/

namespace ConfigSchema.Yaml

open ConfigSchema.Text (yamlEscape jsonEscape hexCode breaksYaml)

/-! ## Codes -/

/-- The number that four hexadecimal digits spell. -/
def quadValue? : List Char → Option Nat
  | [a, b, c, d] => do
      let a ← hexValue? a
      let b ← hexValue? b
      let c ← hexValue? c
      let d ← hexValue? d
      return ((a * 16 + b) * 16 + c) * 16 + d
  | _ => none

/-- The code of a control character spells its number. -/
theorem quadValue_hexCode_lower {n : Nat} (h : n < 0x20) :
    quadValue? (hexCode false n) = some n := by
  have hall : ∀ m < 0x20, quadValue? (hexCode false m) = some m := by decide +kernel
  exact hall n h

/-- The code of a character that may break YAML spells its number. -/
theorem quadValue_hexCode_upper {c : Char} (h : breaksYaml c) :
    quadValue? (hexCode true c.toNat) = some c.toNat := by
  have hall : ∀ m < 0xA0, quadValue? (hexCode true m) = some m := by decide +kernel
  simp only [breaksYaml, Bool.or_eq_true, Bool.and_eq_true, decide_eq_true_eq, beq_iff_eq] at h
  rcases h with ((((h | h) | h) | h) | h) | h
  · exact hall _ (by omega)
  all_goals
    rw [h]
    decide +kernel

/-- Hexadecimal digits are ASCII letters and digits. -/
theorem toNat_of_hexValue {c : Char} {digit : Nat} (h : hexValue? c = some digit) :
    0x30 ≤ c.toNat ∧ c.toNat ≤ 0x66 := by
  have hle (a b : Char) : a ≤ b ↔ a.toNat ≤ b.toNat := Iff.rfl
  rw [hexValue?] at h
  split at h
  · rename_i hdigit
    simp only [Char.isDigit, Bool.and_eq_true, decide_eq_true_eq] at hdigit
    have hlow : 0x30 ≤ c.toNat := hdigit.1
    have hhigh : c.toNat ≤ 0x39 := hdigit.2
    omega
  · split at h
    · rename_i hlower
      simp only [Bool.and_eq_true, decide_eq_true_eq] at hlower
      have hlow : 0x61 ≤ c.toNat := (hle _ _).mp hlower.1
      have hhigh : c.toNat ≤ 0x66 := (hle _ _).mp hlower.2
      omega
    · split at h
      · rename_i hupper
        simp only [Bool.and_eq_true, decide_eq_true_eq] at hupper
        have hlow : 0x41 ≤ c.toNat := (hle _ _).mp hupper.1
        have hhigh : c.toNat ≤ 0x46 := (hle _ _).mp hupper.2
        omega
      · cases h

/-- Four digits that spell a number. -/
theorem quadValue_eq_some {cs : List Char} {n : Nat} (h : quadValue? cs = some n) :
    ∃ d₁ d₂ d₃ d₄ v₁ v₂ v₃ v₄, cs = [d₁, d₂, d₃, d₄] ∧ hexValue? d₁ = some v₁ ∧
      hexValue? d₂ = some v₂ ∧ hexValue? d₃ = some v₃ ∧ hexValue? d₄ = some v₄ ∧
      ((v₁ * 16 + v₂) * 16 + v₃) * 16 + v₄ = n := by
  match cs with
  | [d₁, d₂, d₃, d₄] =>
    simp only [quadValue?, Option.bind_eq_bind, Option.bind_eq_some_iff] at h
    obtain ⟨v₁, h₁, v₂, h₂, v₃, h₃, v₄, h₄, h⟩ := h
    exact ⟨d₁, d₂, d₃, d₄, v₁, v₂, v₃, v₄, rfl, h₁, h₂, h₃, h₄, Option.some.inj h⟩

/-- The digits of a code are printed in ASCII. -/
theorem ascii_of_quadValue {cs : List Char} {n : Nat} (h : quadValue? cs = some n) :
    ∀ c ∈ cs, 0x20 ≤ c.toNat ∧ c.toNat < 0x7F := by
  obtain ⟨d₁, d₂, d₃, d₄, v₁, v₂, v₃, v₄, rfl, h₁, h₂, h₃, h₄, -⟩ := quadValue_eq_some h
  have hdigit {d : Char} {v : Nat} (hd : hexValue? d = some v) :
      0x20 ≤ d.toNat ∧ d.toNat < 0x7F := by
    have hbounds := toNat_of_hexValue hd
    omega
  simpa using ⟨hdigit h₁, hdigit h₂, hdigit h₃, hdigit h₄⟩

/-- One digit of a code is read. -/
theorem scanQuoted_digit {c : Char} {digit : Nat} (h : hexValue? c = some digit)
    (finish : Mark) (text : List Char) (digits value : Nat) (start mark : Mark)
    (gs : List Glyph) :
    scanQuoted true finish text {} (some ⟨digits + 2, value, start⟩) (⟨c, mark⟩ :: gs) =
      scanQuoted true finish text {} (some ⟨digits + 1, value * 16 + digit, start⟩) gs := by
  rw [scanQuoted]
  simp [h]

/-- The last digit of a code gives its character. -/
theorem scanQuoted_lastDigit {c d : Char} {digit value : Nat} (h : hexValue? c = some digit)
    (hvalue : value * 16 + digit = d.toNat) (finish : Mark) (text : List Char)
    (start mark : Mark) (gs : List Glyph) :
    scanQuoted true finish text {} (some ⟨1, value, start⟩) (⟨c, mark⟩ :: gs) =
      scanQuoted true finish (d :: text) {} none gs := by
  have hchar : charOfCode? d.toNat = some d := by
    have hvalid : d.toNat.isValidChar := d.valid
    rw [charOfCode?, if_pos hvalid, Char.ofNat_toNat]
  rw [scanQuoted]
  simp [h, hvalue, hchar]

/-- A code of four digits is read as the character that it spells. -/
theorem scanQuoted_code {cs : List Char} {c : Char} (h : quadValue? cs = some c.toNat)
    (finish : Mark) (text : List Char) (start mark : Mark) (gs : List Glyph) :
    scanQuoted true finish text {} (some ⟨4, 0, start⟩) (inlineGlyphs mark cs ++ gs) =
      scanQuoted true finish (c :: text) {} none gs := by
  obtain ⟨d₁, d₂, d₃, d₄, v₁, v₂, v₃, v₄, rfl, h₁, h₂, h₃, h₄, hvalue⟩ := quadValue_eq_some h
  simp only [inlineGlyphs, List.cons_append, List.nil_append]
  rw [scanQuoted_digit h₁, scanQuoted_digit h₂, scanQuoted_digit h₃]
  exact scanQuoted_lastDigit h₄ (by omega) finish text start _ gs

/-! ## Escapes -/

/-- How a character stands between double quotes: as itself, after a backslash, or as a code. -/
inductive EscapedAs (c : Char) : List Char → Prop where
  | plain (hquote : c ≠ '\x22') (hslash : c ≠ '\\') (hline : endsLine c = false)
      (hallowed : isAllowed c) : EscapedAs c [c]
  | short {e : Char} (he : unescape? e = some c) (hline : endsLine e = false)
      (hallowed : isAllowed e) : EscapedAs c ['\\', e]
  | code {digits : List Char} (hdigits : quadValue? digits = some c.toNat) :
      EscapedAs c ('\\' :: 'u' :: digits)

/-- Characters that are printed in ASCII stay on their line and are allowed. -/
theorem of_ascii {c : Char} (h : 0x20 ≤ c.toNat ∧ c.toNat < 0x7F) :
    endsLine c = false ∧ isAllowed c := by
  constructor
  · cases hline : endsLine c with
    | false => rfl
    | true =>
      simp only [endsLine, isBreak, Bool.or_eq_true, beq_iff_eq] at hline
      rcases hline with (rfl | rfl) | (rfl | rfl) | rfl <;> revert h <;> decide
  · simp [isAllowed]
    omega

/-- Characters that break no YAML stay on their line and are allowed, if they are no controls. -/
theorem of_not_breaksYaml {c : Char} (h : breaksYaml c = false) (hsmall : ¬c.toNat < 0x20) :
    endsLine c = false ∧ isAllowed c := by
  constructor
  · cases hline : endsLine c with
    | false => rfl
    | true =>
      simp only [endsLine, isBreak, Bool.or_eq_true, beq_iff_eq] at hline
      rcases hline with (rfl | rfl) | (rfl | rfl) | rfl <;> revert h hsmall <;> decide
  · have hvalid : c.toNat < 0xD800 ∨ 0xDFFF < c.toNat ∧ c.toNat < 0x110000 := c.valid
    simp only [breaksYaml, Bool.or_eq_false_iff, Bool.and_eq_false_iff, decide_eq_false_iff_not,
      beq_eq_false_iff_ne] at h
    simp only [isAllowed, Bool.or_eq_true, Bool.and_eq_true, decide_eq_true_eq, beq_iff_eq]
    omega

/-- A character is escaped in one of the three ways. -/
theorem escapedAs_yamlEscape (c : Char) : EscapedAs c (yamlEscape c) := by
  rw [yamlEscape]
  split
  · rename_i hbreaks
    exact .code (quadValue_hexCode_upper hbreaks)
  rename_i hbreaks
  have hshort {e : Char} (he : unescape? e = some c) (h : 0x20 ≤ e.toNat ∧ e.toNat < 0x7F) :
      EscapedAs c ['\\', e] := .short he (of_ascii h).1 (of_ascii h).2
  simp only [jsonEscape, beq_iff_eq]
  iterate 7
    split
    · exact hshort (by subst_vars; rfl) (by decide)
  split
  · rename_i hsmall
    exact .code (quadValue_hexCode_lower hsmall)
  · rename_i hquote hslash hb hf hn hr ht hsmall
    have hprinted := of_not_breaksYaml (Bool.eq_false_iff.mpr hbreaks) hsmall
    exact .plain hquote hslash hprinted.1 hprinted.2

/-- What stands between double quotes stays on its line and is allowed. -/
theorem EscapedAs.inline {c : Char} {cs : List Char} (h : EscapedAs c cs) :
    ∀ d ∈ cs, endsLine d = false ∧ isAllowed d := by
  have hslash : endsLine '\\' = false ∧ isAllowed '\\' := by decide
  cases h with
  | plain _ _ hline hallowed => simpa using ⟨hline, hallowed⟩
  | short _ hline hallowed => simpa [hslash] using ⟨hline, hallowed⟩
  | @code digits hdigits =>
    have hu : endsLine 'u' = false ∧ isAllowed 'u' := by decide
    have hcode : ∀ d ∈ digits, endsLine d = false ∧ isAllowed d :=
      fun d hd => of_ascii (ascii_of_quadValue hdigits d hd)
    simpa [hslash, hu] using hcode

/-- The characters of a quoted text. -/
theorem toList_yamlQuoted (text : String) :
    (Text.yamlQuoted text).toList =
      '\x22' :: (text.toList.flatMap yamlEscape ++ ['\x22']) := by
  simp [Text.yamlQuoted, Text.quotedBy]

/-- A quoted text stays on its line and is allowed. -/
theorem yamlQuoted_inline (text : String) :
    ∀ c ∈ (Text.yamlQuoted text).toList, endsLine c = false ∧ isAllowed c := by
  have hquote : endsLine '\x22' = false ∧ isAllowed '\x22' := by decide
  intro c hc
  rw [toList_yamlQuoted] at hc
  simp only [List.mem_cons, List.mem_append, List.mem_flatMap, List.not_mem_nil, or_false] at hc
  rcases hc with rfl | ⟨d, -, hd⟩ | rfl
  · exact hquote
  · exact (escapedAs_yamlEscape d).inline c hd
  · exact hquote

/-! ## Reading a quoted text -/

/-- An escaped character is read as the character. -/
theorem scanQuoted_escapedAs {c : Char} {cs : List Char} (h : EscapedAs c cs) (finish : Mark)
    (text blanks : List Char) (mark : Mark) (hcolumn : mark.column ≠ 0) (gs : List Glyph) :
    ∃ text' blanks', blanks' ++ text' = c :: (blanks ++ text) ∧
      scanQuoted true finish text ⟨blanks, false, none, []⟩ none (inlineGlyphs mark cs ++ gs) =
        scanQuoted true finish text' ⟨blanks', false, none, []⟩ none gs := by
  have hmarker (gs : List Glyph) (c : Char) := startsDocumentMarker_of_column (g := ⟨c, mark⟩)
    hcolumn gs
  have hslashBlank : isBlank '\\' = false := rfl
  have hslashBreak : isBreak '\\' = false := rfl
  cases h with
  | plain hquote hslash hline hallowed =>
    have hbreak := isBreak_of_not_endsLine hline
    rw [inlineGlyphs, inlineGlyphs, List.cons_append, List.nil_append, scanQuoted]
    cases hblank : isBlank c with
    | true =>
      exact ⟨text, c :: blanks, rfl, by simp [Gap.addBlank]⟩
    | false =>
      refine ⟨c :: (blanks ++ text), [], rfl, ?_⟩
      simp [hbreak, hmarker, hquote, hslash, Gap.folded]
  | short he hline hallowed =>
    have hbreak := isBreak_of_not_endsLine hline
    refine ⟨c :: (blanks ++ text), [], rfl, ?_⟩
    simp only [inlineGlyphs, List.cons_append, List.nil_append]
    rw [scanQuoted]
    simp [hslashBlank, hslashBreak, hbreak, hmarker, he, Gap.folded]
  | @code digits hdigits =>
    refine ⟨c :: (blanks ++ text), [], rfl, ?_⟩
    rw [inlineGlyphs, inlineGlyphs, List.cons_append, List.cons_append,
      ← scanQuoted_code hdigits finish (blanks ++ text)
        (hereOr finish (inlineGlyphs ((mark.next '\\').next 'u') digits ++ gs))
        ((mark.next '\\').next 'u') gs,
      scanQuoted]
    simp [hslashBlank, hmarker, Gap.folded, isBreak, unescape?, codeLength?]

/-- Escaped characters are read as the characters, up to the closing quote. -/
theorem scanQuoted_yamlEscape (cs : List Char) (finish : Mark) (text blanks : List Char)
    (mark : Mark) (hcolumn : mark.column ≠ 0) (gs : List Glyph) :
    scanQuoted true finish text ⟨blanks, false, none, []⟩ none
        (inlineGlyphs mark (cs.flatMap yamlEscape ++ ['\x22']) ++ gs) =
      .ok (.ofList (text.reverse ++ (blanks.reverse ++ cs)), gs) := by
  induction cs generalizing text blanks mark with
  | nil =>
    have hmarker := startsDocumentMarker_of_column (g := ⟨'\x22', mark⟩) hcolumn gs
    simp only [List.flatMap_nil, List.nil_append, inlineGlyphs, List.cons_append]
    rw [scanQuoted]
    simp [hmarker, Gap.folded, isBlank, isBreak]
  | cons c cs ih =>
    have hinline := inlineGlyphs_append mark (yamlEscape c) (cs.flatMap yamlEscape ++ ['\x22'])
    obtain ⟨text', blanks', heq, hscan⟩ := scanQuoted_escapedAs (escapedAs_yamlEscape c) finish
      text blanks mark hcolumn
      (inlineGlyphs (mark.after (yamlEscape c)) (cs.flatMap yamlEscape ++ ['\x22']) ++ gs)
    have hcolumn' : (mark.after (yamlEscape c)).column ≠ 0 := by
      rw [Mark.after_column]
      omega
    have hreverse : text'.reverse ++ blanks'.reverse = text.reverse ++ (blanks.reverse ++ [c]) := by
      simpa using congrArg List.reverse heq
    rw [List.flatMap_cons, List.append_assoc, hinline, List.append_assoc, hscan,
      ih text' blanks' _ hcolumn', ← List.append_assoc, hreverse]
    simp

end ConfigSchema.Yaml
