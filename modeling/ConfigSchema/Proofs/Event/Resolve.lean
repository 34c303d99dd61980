import ConfigSchema.Proofs.Event.Scalar
import ConfigSchema.Proofs.Value.Events

/-!
# The type of written scalars

What is written for a scalar is read as a scalar of the same type with the same value: words and
figures resolve to what they were written for, and everything else is quoted or resolves to itself.

## Main statements

- `resolvePlain_int`, `resolvePlain_float` — numbers resolve to themselves
- `shownTree_str` — every text is read as itself
-/

namespace ConfigSchema

open Yaml

/-! ## Figures are no words -/

/-- A text with a digit is no text without one. -/
theorem beq_of_isDigit {text word : String} (h : ∃ c ∈ text.toList, c.isDigit)
    (hword : word.toList.any Char.isDigit = false) : (text == word) = false := by
  rw [beq_eq_false_iff_ne]
  rintro rfl
  obtain ⟨c, hc, hdigit⟩ := h
  exact absurd hdigit (by simpa using List.any_eq_false.mp hword c hc)

/-- A text with a digit is neither null nor a bool. -/
theorem resolvePlain_of_isDigit {text : String} (h : ∃ c ∈ text.toList, c.isDigit) :
    (text.isEmpty || spellsNull text) = false ∧ readBool? text = none := by
  have hempty : text.isEmpty = false := by
    obtain ⟨c, hc, -⟩ := h
    rw [Bool.eq_false_iff, ne_eq, String.isEmpty_iff, ← String.toList_eq_nil_iff]
    exact List.ne_nil_of_mem hc
  constructor
  · simp (disch := decide) [hempty, spellsNull, beq_of_isDigit h]
  · simp (disch := decide) [readBool?, beq_of_isDigit h]

/-! ## Integers -/

/-- The digits of a positive number do not start with a zero. -/
theorem toDigits_eq_cons {n : Nat} (h : 0 < n) :
    ∃ c cs, Nat.toDigits 10 n = c :: cs ∧ c ≠ '0' := by
  -- the digits before the last one are those of the quotient
  induction n using Nat.strongRecOn with
  | ind n ih =>
    by_cases hsmall : n < 10
    · have hchars : ∀ m < 10, 0 < m → m.digitChar ≠ '0' := by decide
      exact ⟨n.digitChar, [], Nat.toDigits_of_lt_base hsmall, hchars n hsmall h⟩
    · obtain ⟨c, cs, hdigits, hc⟩ := ih (n / 10) (by omega) (by omega)
      refine ⟨c, cs ++ [(n % 10).digitChar], ?_, hc⟩
      rw [Nat.toDigits_of_base_le (by decide) (by omega), hdigits]
      rfl

theorem baseOf_of_isDigit {c : Char} (h : c.isDigit) : baseOf? c = none := by
  have hdigits : ∀ d ∈ "0123456789".toList, baseOf? d = none := forall_mem_toList (by decide)
  exact hdigits c (mem_of_isDigit h)

theorem readPrefixed_eq_none {cs : List Char} (h : ∀ c ∈ cs, baseOf? c = none) :
    readPrefixed? cs = none ∧ isSignedPrefixed cs = false := by
  match cs with
  | [] | [_] => exact ⟨by simp [readPrefixed?], by simp [isSignedPrefixed]⟩
  | c :: d :: ds =>
    have hd := h d (by simp)
    constructor
    · rw [readPrefixed?.eq_def]
      split
      · rename_i heq
        obtain ⟨-, rfl, rfl⟩ := by simpa using heq
        rw [hd]
        rfl
      · rfl
    · rw [isSignedPrefixed.eq_def]
      split
      · rename_i heq
        obtain ⟨-, rfl, rfl⟩ := by simpa using heq
        rw [hd]
        rfl
      · rfl

theorem ne_sign_of_isDigit {c : Char} (h : c.isDigit) : c ≠ '-' ∧ c ≠ '+' := by
  have hdigits : ∀ d ∈ "0123456789".toList, d ≠ '-' ∧ d ≠ '+' := forall_mem_toList (by decide)
  exact hdigits c (mem_of_isDigit h)

theorem startsSigned_of_startsDigit {cs : List Char} (h : StartsDigit cs) :
    startsSigned cs = false := by
  obtain ⟨c, ds, rfl, hdigit⟩ := h
  simp [startsSigned, isSign, ne_sign_of_isDigit hdigit]

/-- Figures without zeros at their start are read as a natural number. -/
theorem readYamlInt_of_startsDigit {cs : List Char} (hstart : StartsDigit cs)
    (hbase : ∀ c ∈ cs, baseOf? c = none) (hpadded : isZeroPadded cs = false) :
    readYamlInt? cs = (readNat? 10 cs).map fun n : Nat => (n : Int) := by
  obtain ⟨hprefixed, hsignedPrefixed⟩ := readPrefixed_eq_none hbase
  have hsigned := startsSigned_of_startsDigit hstart
  obtain ⟨c, ds, rfl, hdigit⟩ := hstart
  obtain ⟨hminus, hplus⟩ := ne_sign_of_isDigit hdigit
  have hunsigned : readUnsignedInt? (c :: ds) = readNat? 10 (c :: ds) := by
    rw [readUnsignedInt?]
    · simp [hsignedPrefixed, hprefixed, hsigned, hpadded]
    · rintro rest heq
      exact hplus (List.cons.inj heq).1
  have hnegative : readNegativeInt? (c :: ds) = none := by
    rw [readNegativeInt?]
    rintro rest heq
    exact hminus (List.cons.inj heq).1
  rw [readYamlInt?, hunsigned, hnegative, Option.or_none]
  cases readNat? 10 (c :: ds) <;> rfl

/-- After a minus sign, they are read as the negative of the number. -/
theorem readYamlInt_minus {cs : List Char} (hbase : ∀ c ∈ cs, baseOf? c = none)
    (hpadded : isZeroPadded cs = false) :
    readYamlInt? ('-' :: cs) = (readNat? 10 cs).map fun n : Nat => -(n : Int) := by
  obtain ⟨hprefixed, -⟩ := readPrefixed_eq_none hbase
  have hunsigned : readUnsignedInt? ('-' :: cs) = none := by
    rw [readUnsignedInt?]
    · simp [isSignedPrefixed, readPrefixed?, startsSigned, isSign]
    · simp
  rw [readYamlInt?, hunsigned, readNegativeInt?, hprefixed, Option.none_or, hpadded]
  cases readNat? 10 cs <;> rfl

theorem isZeroPadded_toDigits (n : Nat) : isZeroPadded (Nat.toDigits 10 n) = false := by
  rcases Nat.eq_zero_or_pos n with rfl | hn
  · decide
  · obtain ⟨c, cs, hdigits, hc⟩ := toDigits_eq_cons hn
    have hdigit : c.isDigit := isDigit_of_mem_toDigits (n := n) (by simp [hdigits])
    have hsign : isSign c = false := by simp [isSign, ne_sign_of_isDigit hdigit]
    rw [hdigits, isZeroPadded, hsign, if_neg Bool.false_ne_true]
    split
    · rename_i heq
      exact absurd (List.cons.inj heq).1 hc
    · rfl

theorem startsDigit_toDigits (n : Nat) : StartsDigit (Nat.toDigits 10 n) :=
  startsDigit_of_isDigit Nat.toDigits_ne_nil fun _ hc => isDigit_of_mem_toDigits hc

theorem readYamlInt_toString (n : Int) : readYamlInt? (toString n).toList = some n := by
  have hbase (m : Nat) : ∀ c ∈ Nat.toDigits 10 m, baseOf? c = none :=
    fun c hc => baseOf_of_isDigit (isDigit_of_mem_toDigits hc)
  rw [toList_toString_int]
  split
  · rename_i hn
    rw [readYamlInt_of_startsDigit (startsDigit_toDigits _) (hbase _) (isZeroPadded_toDigits _),
      readNat?_toDigits, Option.map_some, Int.toNat_of_nonneg hn]
  · rename_i hn
    have habs : ((-n).toNat : Int) = -n := Int.toNat_of_nonneg (by omega)
    rw [readYamlInt_minus (hbase _) (isZeroPadded_toDigits _), readNat?_toDigits,
      Option.map_some, habs, Int.neg_neg]

theorem exists_isDigit_toString (n : Int) : ∃ c ∈ (toString n).toList, c.isDigit := by
  have hdigits (m : Nat) : ∃ c ∈ Nat.toDigits 10 m, c.isDigit := by
    obtain ⟨c, cs, heq⟩ := List.exists_cons_of_ne_nil (@Nat.toDigits_ne_nil m 10)
    exact ⟨c, by simp [heq], isDigit_of_mem_toDigits (n := m) (by simp [heq])⟩
  rw [toList_toString_int]
  split
  · exact hdigits _
  · obtain ⟨c, hc, hdigit⟩ := hdigits (-n).toNat
    exact ⟨c, List.mem_cons_of_mem _ hc, hdigit⟩

/-- An integer of 64 bits resolves to itself. -/
theorem resolvePlain_int (n : Int64) :
    resolvePlain (toString n.toInt) = some (.int n.toInt) := by
  obtain ⟨hnull, hbool⟩ := resolvePlain_of_isDigit (exists_isDigit_toString n.toInt)
  have hrange : IntRange.of n.toInt = .word := by
    have hlow := n.le_toInt
    have hhigh := n.toInt_lt
    rw [IntRange.of]
    simp
    omega
  rw [resolvePlain, hnull, if_neg Bool.false_ne_true, hbool]
  dsimp only
  rw [readYamlInt_toString]
  dsimp only
  rw [hrange]

/-! ## Floats -/

theorem readDigits_of_point {cs : List Char} (h : '.' ∈ cs) (acc : Nat) :
    readDigits? 10 acc cs = none := by
  induction cs generalizing acc with
  | nil => cases h
  | cons c cs ih =>
    rw [readDigits?]
    by_cases hc : c = '.'
    · subst hc
      rfl
    · have hrest : '.' ∈ cs := (List.mem_cons.mp h).resolve_left (Ne.symm hc)
      cases digitValue? 10 c with
      | none => rfl
      | some digit => exact ih hrest _

theorem readNat_of_point {cs : List Char} (h : '.' ∈ cs) : readNat? 10 cs = none := by
  rw [readNat?, readDigits_of_point h]
  split <;> rfl

theorem isZeroPadded_of_point {cs : List Char} (h : '.' ∈ cs) : isZeroPadded cs = false := by
  cases cs with
  | nil => cases h
  | cons c cs =>
    have hpoint : '.' ∈ (if isSign c then cs else c :: cs) := by
      split
      · rename_i hsign
        refine (List.mem_cons.mp h).resolve_left ?_
        rintro rfl
        exact absurd hsign (by decide)
      · exact h
    rw [isZeroPadded]
    generalize (if isSign c then cs else c :: cs) = digits at hpoint ⊢
    split
    · rename_i d more
      exact List.all_eq_false.mpr ⟨'.', by simpa using hpoint, by decide⟩
    · rfl

section

variable {cs : List Char} {text : String}

theorem Numeral.readYamlInt_eq_none (h : Numeral cs)
    (htext : text.toList = cs ∨ text.toList = '-' :: cs) : readYamlInt? text.toList = none := by
  have hpoint : '.' ∈ cs := by
    obtain ⟨whole, fraction, rfl, -⟩ := h.parts
    simp
  have hbase : ∀ c ∈ cs, baseOf? c = none := by
    have hchars : ∀ d ∈ "0123456789.".toList, baseOf? d = none := forall_mem_toList (by decide)
    exact fun c hc => hchars c (h.figures.mem c hc)
  rcases htext with htext | htext <;> rw [htext]
  · rw [readYamlInt_of_startsDigit h.startsDigit hbase (isZeroPadded_of_point hpoint),
      readNat_of_point hpoint]
    rfl
  · rw [readYamlInt_minus hbase (isZeroPadded_of_point hpoint), readNat_of_point hpoint]
    rfl

/-- A numeral that is read as a finite float resolves to this float. -/
theorem Numeral.resolvePlain_eq (h : Numeral cs)
    (htext : text.toList = cs ∨ text.toList = '-' :: cs) {x : Float}
    (hread : readFloat? text = some x) (hfinite : x.isFinite) :
    resolvePlain text = some (.float x) := by
  have hdigit : ∃ c ∈ text.toList, c.isDigit := by
    obtain ⟨c, ds, rfl, hdigit⟩ := h.startsDigit
    rcases htext with htext | htext <;> exact ⟨c, by simp [htext], hdigit⟩
  have hpoint : '.' ∈ text.toList := by
    obtain ⟨whole, fraction, rfl, -⟩ := h.parts
    rcases htext with htext | htext <;> simp [htext]
  -- readers of floats drop a plus sign, but there is none
  have hsigned : ∀ rest, text.toList ≠ '+' :: rest := by
    intro rest heq
    obtain ⟨c, ds, rfl, hdigit⟩ := h.startsDigit
    rw [heq] at htext
    rcases htext with htext | htext
    · exact absurd (List.cons.inj htext).1.symm (ne_sign_of_isDigit hdigit).2
    · exact absurd (List.cons.inj htext).1 (by decide)
  have hfloat : readYamlFloat? text = some x := by
    rw [readYamlFloat?]
    split
    · rename_i rest heq
      exact absurd heq (hsigned rest)
    · simp (disch := decide) [beq_of_isDigit hdigit, hread, hfinite]
  obtain ⟨hnull, hbool⟩ := resolvePlain_of_isDigit hdigit
  rw [resolvePlain, hnull, if_neg Bool.false_ne_true, hbool]
  dsimp only
  rw [h.readYamlInt_eq_none htext, isZeroPadded_of_point hpoint, hfloat]
  rfl

end

/-- The text of a float resolves to the float, if its text in events is read as the float. -/
theorem resolvePlain_float (x : Float) : resolvePlain (writtenFloat.text x) = some (.float x) := by
  have htexts := floatTexts x
  have h := readFloat?_text x
  generalize eventFloat.text x = event, writtenFloat.text x = shown at h htexts ⊢
  -- what is not finite is one word in events and another one in YAML, for the same float
  cases htexts with
  | notANumber =>
    have hread : readFloat? "NaN" = some (0.0 / 0.0) := rfl
    obtain rfl := Option.some.inj (hread.symm.trans h)
    rfl
  | infinite negative =>
    cases negative with
    | false =>
      have hread : readFloat? (FloatStyle.signText false ++ "inf") = some (1.0 / 0.0) := rfl
      obtain rfl := Option.some.inj (hread.symm.trans h)
      rfl
    | true =>
      have hread : readFloat? (FloatStyle.signText true ++ "inf") = some (-(1.0 / 0.0)) := rfl
      obtain rfl := Option.some.inj (hread.symm.trans h)
      rfl
  | @finite hfinite negative event written hwritten hevent hsame =>
    rw [readFloat_signText hevent, ← hsame, ← readFloat_signText hwritten.startsDigit] at h
    refine hwritten.resolvePlain_eq ?_ h hfinite
    cases negative with
    | false => exact .inl (by simp [FloatStyle.signText])
    | true => exact .inr (by simp [FloatStyle.signText])

/-! ## The trees of scalars -/

theorem shownTree_bool (flag : Bool) : shownTree? (boolText flag) .bool = .ok (.bool flag) := by
  cases flag <;> rfl

theorem shownTree_int (n : Int64) :
    shownTree? (toString n.toInt) .int = .ok (.int n.toInt) := by
  have hwritten : shownText (toString n.toInt) .int = toString n.toInt := by
    show written (toString n.toInt) .int = toString n.toInt
    rw [written, renderScalar, writtenIntOf?, readInt64?_toString]
    rfl
  rw [shownTree?, hwritten, resolvePlain_int]
  rfl

/-- A float is read as itself, if its text in events is read as the float. -/
theorem shownTree_float (x : Float) :
    shownTree? (eventFloat.text x) .float = .ok (.float x) := by
  have hwritten : shownText (eventFloat.text x) .float = writtenFloat.text x := by
    show written (eventFloat.text x) .float = writtenFloat.text x
    rw [written, renderScalar, writtenFloatOf?, readFloat?_text]
    rfl
  rw [shownTree?, hwritten, resolvePlain_float]
  rfl

/-- A text is read as itself. -/
theorem shownTree_str (text : String) : shownTree? text .str = .ok (.str text) := by
  have hplain : isShownPlain text .str = isPlainSafe text := rfl
  have hshown : shownText text .str = text := rfl
  rw [shownTree?, hplain, hshown]
  split
  · rename_i hsafe
    rw [resolvePlain_of_isPlainSafe hsafe]
    rfl
  · rfl

end ConfigSchema
