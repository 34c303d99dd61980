import ConfigSchema.Proofs.Event.Scalar

/-!
# Scalars on one line

A text that needs quotes is written as a JSON string, and then the characters that YAML does not
take as they are get a code too. What is written stays on its line and gives the text back.

## Main definitions

- `Printed` — the characters that scalars hold as they are
- `codeEscape` — the second step of quoting
- `Yaml.unquoted?` — the text that a double-quoted scalar stands for

## Main statements

- `toList_yamlQuoted_eq` — quoting is the two steps one after the other
- `printed_of_renderScalar` — scalars of every type are printed
- `renderScalar_oneLine` — a text is written on one line and read back
- `renderScalar_str_injective` — different texts are written differently
-/

namespace ConfigSchema

open Text (yamlEscape jsonEscape hexCode breaksYaml yamlQuoted jsonQuoted)
open Yaml (endsLine isAllowed)

/-! ## Printed characters -/

/-- The character stands in a scalar as it is. Controls do not, nor do the characters that separate
lines and paragraphs or mark the order of bytes, nor the last two of the basic plane. -/
structure Printed (c : Char) : Prop where
  notLowControl : 0x20 ≤ c.toNat
  notHighControl : c.toNat < 0x7F ∨ 0x9F < c.toNat
  notSpecial : c ∉ ['\u2028', '\u2029', '\ufeff', '\ufffe', '\uffff']

theorem printed_iff {c : Char} : Printed c ↔ 0x20 ≤ c.toNat ∧ breaksYaml c = false := by
  have hspecial : c ∉ ['\u2028', '\u2029', '\ufeff', '\ufffe', '\uffff'] ↔
      c.toNat ≠ 0x2028 ∧ c.toNat ≠ 0x2029 ∧ c.toNat ≠ 0xFEFF ∧ c.toNat ≠ 0xFFFE ∧
        c.toNat ≠ 0xFFFF := by
    simp [← Char.toNat_inj]
  simp only [breaksYaml, Bool.or_eq_false_iff, Bool.and_eq_false_iff, decide_eq_false_iff_not,
    beq_eq_false_iff_ne]
  constructor
  · rintro ⟨hlow, hhigh, hnone⟩
    have hnone := hspecial.mp hnone
    omega
  · intro h
    exact ⟨h.1, by omega, hspecial.mpr (by omega)⟩

/-- A printed character ends no line. -/
theorem Printed.endsLine {c : Char} (h : Printed c) : endsLine c = false := by
  obtain ⟨hlow, hbreaks⟩ := printed_iff.mp h
  exact (Yaml.of_not_breaksYaml hbreaks (by omega)).1

theorem printed_of_ascii {c : Char} (h : 0x20 ≤ c.toNat ∧ c.toNat < 0x7F) : Printed c := by
  refine printed_iff.mpr ⟨h.1, ?_⟩
  simp [breaksYaml]
  omega

/-! ## The two steps of quoting -/

/-- A character of a JSON string as it stands in a quoted scalar. -/
def codeEscape (c : Char) : List Char :=
  if breaksYaml c then '\\' :: 'u' :: hexCode true c.toNat else [c]

/-- What stands for a character in a JSON string is printed in ASCII, or the character itself, which
then is no control character. -/
theorem of_mem_jsonEscape {c d : Char} (h : d ∈ jsonEscape c) :
    0x20 ≤ d.toNat ∧ d.toNat < 0x7F ∨ d = c ∧ 0x20 ≤ c.toNat := by
  rw [jsonEscape] at h
  iterate 7
    split at h
    · left
      simp only [List.mem_cons, List.not_mem_nil, or_false] at h
      rcases h with rfl | rfl <;> decide
  split at h
  · rename_i hsmall
    have hcode := Yaml.ascii_of_quadValue (Yaml.quadValue_hexCode_lower hsmall)
    simp only [List.mem_cons] at h
    rcases h with rfl | rfl | h
    · exact .inl (by decide)
    · exact .inl (by decide)
    · exact .inl (hcode d h)
  · rename_i hsmall
    exact .inr ⟨List.mem_singleton.mp h, by omega⟩

/-- In JSON, a character that only YAML takes for a break is left as it is. -/
theorem jsonEscape_of_breaksYaml {c : Char} (h : breaksYaml c) : jsonEscape c = [c] := by
  have hlarge : 0x7F ≤ c.toNat := by
    simp only [breaksYaml, Bool.or_eq_true, Bool.and_eq_true, decide_eq_true_eq, beq_iff_eq] at h
    omega
  have hne {e : Char} (he : e.toNat < 0x7F) : (c == e) = false := by
    rw [beq_eq_false_iff_ne]
    rintro rfl
    omega
  have hcontrol : ¬c.toNat < 0x20 := by omega
  simp [jsonEscape, hne, hcontrol]

/-- A character is quoted in two steps. -/
theorem yamlEscape_eq (c : Char) : yamlEscape c = (jsonEscape c).flatMap codeEscape := by
  rw [yamlEscape]
  cases hbreaks : breaksYaml c with
  | true => simp [jsonEscape_of_breaksYaml hbreaks, codeEscape, hbreaks]
  | false =>
    -- what the first step writes has nothing left for the second
    have hkept : ∀ d ∈ jsonEscape c, codeEscape d = [d] := by
      intro d hd
      have hd : breaksYaml d = false := by
        rcases of_mem_jsonEscape hd with hascii | ⟨rfl, -⟩
        · exact (printed_iff.mp (printed_of_ascii hascii)).2
        · exact hbreaks
      simp [codeEscape, hd]
    rw [List.flatMap_congr hkept]
    simp

/-- A text is quoted in two steps: as a JSON string, and then this string once more. -/
theorem toList_yamlQuoted_eq (text : String) :
    (yamlQuoted text).toList = (jsonQuoted text).toList.flatMap codeEscape := by
  have hquote : codeEscape '\x22' = ['\x22'] := rfl
  simp [Yaml.toList_yamlQuoted, jsonQuoted, Text.quotedBy, List.flatMap_assoc, hquote,
    ← yamlEscape_eq]

example : yamlQuoted "\\\u0085\x22" = "\x22\\\\\\u0085\\\x22\x22" := by
  decide

/-- A JSON string holds no control character. -/
theorem le_toNat_of_mem_jsonQuoted {text : String} {c : Char} (h : c ∈ (jsonQuoted text).toList) :
    0x20 ≤ c.toNat := by
  simp only [jsonQuoted, Text.quotedBy, String.toList_ofList, List.cons_append, List.mem_cons,
    List.mem_append, List.mem_flatMap, List.not_mem_nil, or_false] at h
  rcases h with rfl | ⟨d, -, hd⟩ | rfl
  · decide
  · rcases of_mem_jsonEscape hd with hascii | ⟨rfl, hlow⟩
    · exact hascii.1
    · exact hlow
  · decide

/-- The second step leaves nothing but printed characters. -/
theorem printed_of_mem_codeEscape {c d : Char} (hd : 0x20 ≤ d.toNat) (h : c ∈ codeEscape d) :
    Printed c := by
  rw [codeEscape] at h
  split at h
  · rename_i hbreaks
    have hcode := Yaml.ascii_of_quadValue (Yaml.quadValue_hexCode_upper hbreaks)
    simp only [List.mem_cons] at h
    rcases h with rfl | rfl | h
    · exact printed_of_ascii (by decide)
    · exact printed_of_ascii (by decide)
    · exact printed_of_ascii (hcode c h)
  · rename_i hbreaks
    obtain rfl := List.mem_singleton.mp h
    exact printed_iff.mpr ⟨hd, Bool.eq_false_iff.mpr hbreaks⟩

theorem printed_yamlQuoted (text : String) : ∀ c ∈ (yamlQuoted text).toList, Printed c := by
  intro c hc
  rw [toList_yamlQuoted_eq, List.mem_flatMap] at hc
  obtain ⟨d, hd, hc⟩ := hc
  exact printed_of_mem_codeEscape (le_toNat_of_mem_jsonQuoted hd) hc

/-! ## Scalars -/

/-- A text that reads as itself is printed. Three of the low controls are ruled out by name, and
with another one the text would not be read at all. -/
theorem printed_of_isPlainSafe {text : String} (h : isPlainSafe text) :
    ∀ c ∈ text.toList, Printed c := by
  intro c hc
  have hallowed := (plainAt_of_isPlainSafe h).2 c hc
  simp only [isPlainSafe, Bool.and_eq_true, List.all_eq_true] at h
  have hchar := h.1.2 c hc
  simp only [Bool.not_eq_true', Bool.or_eq_false_iff, beq_eq_false_iff_ne, ne_eq,
    ← Char.toNat_inj, Char.reduceToNat] at hchar
  obtain ⟨⟨⟨hfeed, hreturn⟩, htab⟩, hbreaks⟩ := hchar
  refine printed_iff.mpr ⟨?_, hbreaks⟩
  simp only [isAllowed, Bool.or_eq_true, Bool.and_eq_true, decide_eq_true_eq, beq_iff_eq]
    at hallowed
  omega

/-- The texts of null, of bools and of numbers are printed. -/
theorem Spelling.printed {text : String} (h : Spelling text) : ∀ c ∈ text.toList, Printed c := by
  intro c hc
  apply printed_of_ascii
  cases h with
  | word h =>
    simp only [List.mem_cons, List.not_mem_nil, or_false] at h
    have hascii : ∀ d ∈ text.toList, 0x20 ≤ d.toNat ∧ d.toNat < 0x7F := by
      rcases h with rfl | rfl | rfl | rfl | rfl | rfl <;> exact forall_mem_toList (by decide)
    exact hascii c hc
  | figures h htext =>
    have hchars : ∀ d ∈ "-0123456789.".toList, 0x20 ≤ d.toNat ∧ d.toNat < 0x7F :=
      forall_mem_toList (by decide)
    refine hchars c ?_
    rcases htext with htext | htext
    · rw [htext] at hc
      exact List.mem_cons_of_mem '-' (h.mem c hc)
    · rw [htext] at hc
      rcases List.mem_cons.mp hc with rfl | hc
      · decide
      · exact List.mem_cons_of_mem '-' (h.mem c hc)

/-- Scalars of every type are printed. -/
theorem printed_of_renderScalar {text shown : String} {tag : ScalarTag}
    (h : renderScalar text tag = .ok shown) : ∀ c ∈ shown.toList, Printed c := by
  obtain ⟨haccepts, rfl⟩ := of_renderScalar h
  by_cases hnull : tag = .null
  · subst hnull
    have hempty : written text .null = "" := rfl
    simp [hempty]
  by_cases hstr : tag = .str
  · subst hstr
    rw [written_str]
    split
    · rename_i hsafe
      exact printed_of_isPlainSafe hsafe
    · exact printed_yamlQuoted text
  · exact (spelling_written haccepts hnull hstr).printed

/-! ## Reading a text back -/

/-- The text that a double-quoted scalar stands for, if the whole text is one. -/
def Yaml.unquoted? (text : String) : Option String :=
  match Source.ofString? text with
  | .ok ⟨g :: glyphs, finish⟩ =>
      if g.char == '\x22' then
        match scanQuoted true finish [] {} none glyphs with
        | .ok (read, []) => some read
        | _ => none
      else
        none
  | _ => none

/-- A quoted text stands for the text. -/
theorem Yaml.unquoted?_yamlQuoted (text : String) : unquoted? (yamlQuoted text) = some text := by
  have hinline := yamlQuoted_inline text
  have hsource := ofString_eq_ok (fun c hc => (hinline c hc).1) fun c hc => (hinline c hc).2
  have hscan := Lexer.scanQuoted_yamlQuoted text (Mark.after {} (yamlQuoted text).toList) {} []
  rw [List.append_nil] at hscan
  rw [unquoted?, hsource]
  rw [toList_yamlQuoted] at hscan ⊢
  simp only [inlineGlyphs, List.drop_one, List.tail_cons] at hscan ⊢
  rw [hscan]
  rfl

/-- A text that reads as itself is no quoted text. -/
theorem Yaml.unquoted?_of_isPlainSafe {text : String} (h : isPlainSafe text) :
    unquoted? text = none := by
  obtain ⟨-, -, hchars, -⟩ := isPlainSafe_eq h
  obtain ⟨c, ds, hcs, hhead⟩ : ∃ c ds, text.toList = c :: ds ∧ c ≠ '\x22' := by
    have hform := isPlainText_of_isPlainSafe h
    simp only [isPlainText, Bool.and_eq_true] at hform
    obtain ⟨c, ds, hcs, hc⟩ := exists_of_plainHead hform.1.1
    refine ⟨c, ds, hcs, ?_⟩
    rintro rfl
    rcases hc with ⟨hc, -⟩ | ⟨-, hc⟩
    · revert hc
      decide
    · cases hc
  have hsource := ofString_eq_ok (fun c hc => (hchars c hc).1) (plainAt_of_isPlainSafe h).2
  rw [unquoted?, hsource, hcs]
  simp [inlineGlyphs, hhead]

/-- A text is written as it is, and then it does not look quoted, or between quotes, and then it is
what they stand for. -/
theorem written_str_cases (text : String) :
    written text .str = text ∧ Yaml.unquoted? (written text .str) = none ∨
      ∃ body, written text .str = "\x22" ++ body ++ "\x22" ∧
        Yaml.unquoted? (written text .str) = some text := by
  rw [written_str]
  split
  · rename_i hsafe
    exact .inl ⟨rfl, Yaml.unquoted?_of_isPlainSafe hsafe⟩
  · refine .inr ⟨.ofList (text.toList.flatMap yamlEscape), ?_, Yaml.unquoted?_yamlQuoted text⟩
    rw [← String.toList_inj, Yaml.toList_yamlQuoted]
    simp

/-- A text is written on one line: as it is, or between double quotes, with escapes that are read
back as the text. No character in it is a control or breaks a line. -/
theorem renderScalar_oneLine (text : String) :
    ∃ shown, renderScalar text .str = .ok shown ∧
      (shown = text ∧ Yaml.unquoted? shown = none ∨
        ∃ body, shown = "\x22" ++ body ++ "\x22" ∧ Yaml.unquoted? shown = some text) ∧
      ∀ c ∈ shown.toList, Printed c ∧ endsLine c = false := by
  have hrender : renderScalar text .str = .ok (written text .str) := renderScalar_of_accepts trivial
  refine ⟨written text .str, hrender, written_str_cases text, fun c hc => ?_⟩
  have hprinted := printed_of_renderScalar hrender c hc
  exact ⟨hprinted, hprinted.endsLine⟩

/-- What is written tells whether to take off quotes, and so gives the text back. -/
theorem getD_unquoted?_written (text : String) :
    (Yaml.unquoted? (written text .str)).getD (written text .str) = text := by
  rcases written_str_cases text with ⟨hplain, hnone⟩ | ⟨-, -, hsome⟩
  · rw [hnone, Option.getD_none, hplain]
  · rw [hsome, Option.getD_some]

/-- Different texts are written differently. -/
theorem renderScalar_str_injective :
    Function.Injective fun text : String => renderScalar text .str := by
  intro a b h
  have hwritten : written a .str = written b .str := congrArg (·.toOption.getD "") h
  rw [← getD_unquoted?_written a, ← getD_unquoted?_written b, hwritten]

end ConfigSchema
