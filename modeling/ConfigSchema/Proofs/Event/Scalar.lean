import ConfigSchema.Proofs.Event.Float
import ConfigSchema.Proofs.Event.Plain
import Mathlib.Data.List.TakeWhile

/-!
# The text of scalars

A scalar whose text fits its type is written as one YAML scalar, with the token that its type asks
for.

## Main definitions

- `Figures` — a digit, and digits and points after it
- `Spelling` — the texts of null, of bools and of numbers

## Main statements

- `scalarText_written`, `scalarText_writtenKey` — a scalar is one YAML scalar, as a value and as
  a key
- `not_isAllWhite_writtenKey` — a key is not white space alone
-/

namespace ConfigSchema

open Yaml

/-! ## Figures -/

/-- The characters are a digit, and digits and points after it. -/
structure Figures (cs : List Char) : Prop where
  startsDigit : StartsDigit cs
  chars : ∀ c ∈ cs, c.isDigit ∨ c = '.'

theorem figures_of_isDigit {cs : List Char} (hne : cs ≠ []) (h : ∀ c ∈ cs, c.isDigit) :
    Figures cs :=
  ⟨startsDigit_of_isDigit hne h, fun c hc => .inl (h c hc)⟩

theorem Numeral.figures {cs : List Char} (h : Numeral cs) : Figures cs := by
  refine ⟨h.startsDigit, fun c hc => ?_⟩
  obtain ⟨whole, fraction, rfl, -, -, hwhole, hfraction⟩ := h.parts
  rcases List.mem_append.mp hc with hc | hc
  · exact .inl (hwhole c hc)
  rcases List.mem_cons.mp hc with rfl | hc
  · exact .inr rfl
  · exact .inl (hfraction c hc)

/-- What is decided for each character of a text holds of all of them. -/
theorem forall_mem_toList {P : Char → Prop} [DecidablePred P] {text : String}
    (h : text.toList.all fun c => decide (P c)) : ∀ c ∈ text.toList, P c :=
  -- with the quantifier itself, it would be decided over all code points
  fun c hc => of_decide_eq_true (List.all_eq_true.mp h c hc)

/-- The ten digits. -/
theorem mem_of_isDigit {c : Char} (h : c.isDigit) : c ∈ "0123456789".toList := by
  have hrange : 48 ≤ c.toNat ∧ c.toNat ≤ 57 := by
    simpa [Char.isDigit, UInt32.le_iff_toNat_le] using h
  -- by its number, since there are too many characters to try them all
  have hdigits : ∀ n < 58, 48 ≤ n → Char.ofNat n ∈ "0123456789".toList := by decide
  have hmem := hdigits c.toNat (by omega) hrange.1
  rwa [Char.ofNat_toNat] at hmem

theorem Figures.mem {cs : List Char} (h : Figures cs) : ∀ c ∈ cs, c ∈ "0123456789.".toList := by
  intro c hc
  rcases h.chars c hc with hdigit | rfl
  · exact List.mem_append_left ['.'] (mem_of_isDigit hdigit)
  · decide

theorem plainBody_figures {cs : List Char} (h : ∀ c ∈ cs, c ∈ "0123456789.".toList)
    (afterBlank : Bool) : plainBody afterBlank cs := by
  induction cs generalizing afterBlank with
  | nil => rfl
  | cons c cs ih =>
    have hchars : ∀ d ∈ "0123456789.".toList,
        isBlank d = false ∧ endsLine d = false ∧ d ≠ '#' ∧ d ≠ ':' :=
      forall_mem_toList (by decide)
    obtain ⟨hblank, hline, hhash, hcolon⟩ := hchars c (h c (by simp))
    have hrest := ih (fun d hd => h d (by simp [hd])) false
    rw [plainBody]
    simp [hblank, hline, hhash, hcolon, hrest]

theorem Figures.allowed {cs : List Char} (h : Figures cs) : ∀ c ∈ cs, isAllowed c := by
  have hchars : ∀ d ∈ "0123456789.".toList, isAllowed d := forall_mem_toList (by decide)
  exact fun c hc => hchars c (h.mem c hc)

theorem Figures.isPlainText {cs : List Char} (h : Figures cs) : isPlainText cs := by
  have hbody := plainBody_figures h.mem false
  obtain ⟨c, ds, rfl, hdigit⟩ := h.startsDigit
  have hdigits : ∀ d ∈ "0123456789".toList,
      (d == '-' || d == '?' || d == ':') = false ∧ (d == '-' || d == '.') = false ∧
        startsSign d ∧ "-?:,[]\x7b\x7d#&*!|>\x27\x22%@\x60".toList.contains d = false :=
    forall_mem_toList (by decide)
  obtain ⟨hlead, hmark, hsign, hspecial⟩ := hdigits c (mem_of_isDigit hdigit)
  have hmarker : isMarkerText (c :: ds) = false := by
    match ds with
    | [] | [_] => rfl
    | _ :: _ :: _ => simp only [isMarkerText, hmark, Bool.false_and]
  rw [Yaml.isPlainText, hbody, hmarker, plainHead, hlead, hsign, hspecial]
  rfl

theorem Figures.isPlainText_minus {cs : List Char} (h : Figures cs) :
    Yaml.isPlainText ('-' :: cs) := by
  have hbody := plainBody_figures h.mem false
  obtain ⟨c, ds, rfl, hdigit⟩ := h.startsDigit
  have hdigits : ∀ d ∈ "0123456789".toList, isBlankOrBreak d = false ∧ (d == '-') = false :=
    forall_mem_toList (by decide)
  obtain ⟨hblank, hdash⟩ := hdigits c (mem_of_isDigit hdigit)
  have hmarker : isMarkerText ('-' :: c :: ds) = false := by
    match ds with
    | [] => rfl
    | _ :: _ => simp [isMarkerText, hdash]
  rw [Yaml.isPlainText, hmarker, plainBody, hbody, plainHead, startsBlankText, hblank]
  rfl

/-! ## Words and figures -/

/-- The texts of null, of bools and of numbers. -/
inductive Spelling : String → Prop where
  | word {text : String} (h : text ∈ ["null", "true", "false", ".nan", ".inf", "-.inf"]) :
      Spelling text
  | figures {text : String} {cs : List Char} (h : Figures cs)
      (htext : text.toList = cs ∨ text.toList = '-' :: cs) : Spelling text

theorem spelling_int (n : Int) : Spelling (toString n) := by
  have hfigures (m : Nat) : Figures (Nat.toDigits 10 m) :=
    figures_of_isDigit Nat.toDigits_ne_nil fun c hc => isDigit_of_mem_toDigits hc
  by_cases hn : 0 ≤ n
  · exact .figures (hfigures n.toNat) (.inl (by rw [toList_toString_int, if_pos hn]))
  · exact .figures (hfigures (-n).toNat) (.inr (by rw [toList_toString_int, if_neg hn]))

/-- The text of a float is a word or figures. -/
theorem spelling_float (x : Float) : Spelling (writtenFloat.text x) := by
  have htexts := floatTexts x
  generalize eventFloat.text x = event, writtenFloat.text x = shown at htexts ⊢
  cases htexts with
  | notANumber => exact .word (by simp)
  | infinite negative => cases negative <;> exact .word (by decide)
  | finite _ negative hwritten _ _ =>
    refine .figures hwritten.figures ?_
    cases negative with
    | false => exact .inl (by simp [FloatStyle.signText])
    | true => exact .inr (by simp [FloatStyle.signText])

theorem spelling_written {text : String} {tag : ScalarTag} (h : tag.Accepts text)
    (hnull : tag ≠ .null) (hstr : tag ≠ .str) : Spelling (written text tag) := by
  cases tag with
  | null => exact absurd rfl hnull
  | str => exact absurd rfl hstr
  | bool => rcases h with rfl | rfl <;> exact .word (by decide)
  | int =>
    obtain ⟨number, hnumber⟩ := Option.isSome_iff_exists.mp h
    have hwritten : written text .int = toString number.toInt := by
      rw [written, renderScalar, writtenIntOf?, hnumber]
      rfl
    exact hwritten ▸ spelling_int number.toInt
  | float =>
    obtain ⟨number, hnumber⟩ := Option.isSome_iff_exists.mp h
    have hwritten : written text .float = writtenFloat.text number := by
      rw [written, renderScalar, writtenFloatOf?, hnumber]
      rfl
    exact hwritten ▸ spelling_float number

theorem spelling_writtenKey {text : String} {tag : ScalarTag} (h : tag.Accepts text)
    (hstr : tag ≠ .str) : Spelling (writtenKey text tag) := by
  by_cases hnull : tag = .null
  · subst hnull
    have hword : writtenKey text .null = "null" := rfl
    exact .word (by simp [hword])
  · rw [writtenKey, if_neg (by simpa using hnull)]
    exact spelling_written h hnull hstr

/-! ## Scalars -/

theorem scalarText_plain {text : String} (h : isPlainText text.toList)
    (hallowed : ∀ c ∈ text.toList, isAllowed c) :
    ScalarText text.toList (.scalar text true) := by
  have hplain := ScalarText.plain h hallowed
  rwa [String.ofList_toList] at hplain

/-- The text of null, of a bool or of a number is one scalar. -/
theorem Spelling.scalarText {text : String} (h : Spelling text) :
    ScalarText text.toList (.scalar text true) := by
  cases h with
  | word h =>
    simp only [List.mem_cons, List.not_mem_nil, or_false] at h
    rcases h with rfl | rfl | rfl | rfl | rfl | rfl <;>
      exact scalarText_plain (by decide) (List.all_eq_true.mp (by decide))
  | figures h htext =>
    rcases htext with htext | htext
    · refine scalarText_plain ?_ ?_ <;> rw [htext]
      · exact h.isPlainText
      · exact h.allowed
    · refine scalarText_plain ?_ ?_ <;> rw [htext]
      · exact h.isPlainText_minus
      · exact List.forall_mem_cons.mpr ⟨by decide, h.allowed⟩

theorem written_str (text : String) :
    written text .str = if isPlainSafe text then text else Text.yamlQuoted text := rfl

/-- A text is one scalar, with quotes where it needs them. -/
theorem scalarText_str (text : String) :
    ScalarText (written text .str).toList (.scalar text (isPlainSafe text)) := by
  rw [written_str]
  cases hsafe : isPlainSafe text with
  | true =>
    exact scalarText_plain (isPlainText_of_isPlainSafe hsafe) (plainAt_of_isPlainSafe hsafe).2
  | false => exact .quoted text

theorem scalarKind_of_ne_str {text : String} {tag : ScalarTag} (h : tag ≠ .str) :
    scalarKind text tag = .scalar (writtenKey text tag) true := by
  cases tag with
  | str => exact absurd rfl h
  | _ => rfl

/-- A key whose text fits is one YAML scalar. -/
theorem scalarText_writtenKey {text : String} {tag : ScalarTag} (h : tag.Accepts text) :
    ScalarText (writtenKey text tag).toList (scalarKind text tag) := by
  by_cases htag : tag = .str
  · subst htag
    exact scalarText_str text
  · rw [scalarKind_of_ne_str htag]
    exact (spelling_writtenKey h htag).scalarText

/-- A scalar whose text fits is one YAML scalar, unless it is null. -/
theorem scalarText_written {text : String} {tag : ScalarTag} (h : tag.Accepts text)
    (htag : tag ≠ .null) : ScalarText (written text tag).toList (scalarKind text tag) := by
  have hkey := scalarText_writtenKey h
  rwa [writtenKey, if_neg (by simpa using htag)] at hkey

/-! ## White space -/

@[simp] theorem isAllWhite_append (before after : String) :
    Text.isAllWhite (before ++ after) = (Text.isAllWhite before && Text.isAllWhite after) := by
  rw [Text.isAllWhite, String.toList_append, List.all_append]
  rfl

theorem trimWhite_of_isAllWhite {text : String} (h : Text.isAllWhite text) :
    Text.trimWhite text = "" := by
  have hdrop : text.toList.dropWhile Text.isWhite = [] := by
    rw [List.dropWhile_eq_nil_iff]
    exact List.all_eq_true.mp h
  rw [Text.trimWhite, Text.trimChars, hdrop]
  rfl

theorem Spelling.not_isAllWhite {text : String} (h : Spelling text) :
    Text.isAllWhite text = false := by
  cases h with
  | word h =>
    simp only [List.mem_cons, List.not_mem_nil, or_false] at h
    rcases h with rfl | rfl | rfl | rfl | rfl | rfl <;> decide
  | figures h htext =>
    obtain ⟨c, ds, rfl, hdigit⟩ := h.startsDigit
    have hdigits : ∀ d ∈ "0123456789".toList, Text.isWhite d = false :=
      forall_mem_toList (by decide)
    rw [Text.isAllWhite, List.all_eq_false]
    refine ⟨c, ?_, by simp [hdigits c (mem_of_isDigit hdigit)]⟩
    rcases htext with htext | htext <;> simp [htext]

theorem not_isAllWhite_writtenKey {text : String} {tag : ScalarTag} (h : tag.Accepts text) :
    Text.isAllWhite (writtenKey text tag) = false := by
  by_cases htag : tag = .str
  · subst htag
    show Text.isAllWhite (if isPlainSafe text then text else Text.yamlQuoted text) = false
    split
    · rename_i hsafe
      obtain ⟨hne, htrim, -⟩ := isPlainSafe_eq hsafe
      refine Bool.eq_false_iff.mpr fun hwhite => hne ?_
      exact htrim.symm.trans (trimWhite_of_isAllWhite hwhite)
    · rw [Text.isAllWhite, toList_yamlQuoted]
      rfl
  · exact (spelling_writtenKey h htag).not_isAllWhite

end ConfigSchema
