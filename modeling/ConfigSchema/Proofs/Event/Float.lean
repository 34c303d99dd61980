import ConfigSchema.Event.Scalar
import ConfigSchema.Proofs.Decimal.Integer
import ConfigSchema.Proofs.Float
import Mathlib.Data.List.TakeDrop

/-!
# The text of floats

How the two texts of a float differ, the one in events and the one in YAML: a whole number has a
fraction in YAML, which changes nothing about how it is read.

## Main definitions

- `Numeral` — digits, a point and digits
- `StartsDigit` — a digit and any characters
- `FloatTexts` — the two texts of a float

## Main statements

- `readMagnitude_numeral` — what digits on both sides of a point spell
- `readMagnitude_fraction` — a fraction of zero changes nothing
- `floatTexts` — the texts of every float
-/

namespace ConfigSchema

/-! ## Numerals -/

/-- The characters are digits, a point and digits. -/
structure Numeral (cs : List Char) : Prop where
  parts : ∃ whole fraction, cs = whole ++ '.' :: fraction ∧ whole ≠ [] ∧ fraction ≠ [] ∧
    (∀ c ∈ whole, c.isDigit) ∧ ∀ c ∈ fraction, c.isDigit

/-- The characters start with a digit. -/
def StartsDigit (cs : List Char) : Prop := ∃ c ds, cs = c :: ds ∧ c.isDigit

theorem StartsDigit.append {cs : List Char} (h : StartsDigit cs) (more : List Char) :
    StartsDigit (cs ++ more) := by
  obtain ⟨c, ds, rfl, hc⟩ := h
  exact ⟨c, ds ++ more, rfl, hc⟩

theorem startsDigit_of_isDigit {cs : List Char} (hne : cs ≠ []) (h : ∀ c ∈ cs, c.isDigit) :
    StartsDigit cs := by
  obtain ⟨c, ds, rfl⟩ := List.exists_cons_of_ne_nil hne
  exact ⟨c, ds, rfl, h c (by simp)⟩

theorem Numeral.startsDigit {cs : List Char} (h : Numeral cs) : StartsDigit cs := by
  obtain ⟨whole, fraction, rfl, hne, -, hwhole, -⟩ := h.parts
  exact (startsDigit_of_isDigit hne hwhole).append _

/-- All of the digits at the start belong to a number. -/
theorem span_isDigit {whole rest : List Char} (hwhole : ∀ c ∈ whole, c.isDigit)
    (hrest : ∀ c ∈ rest.head?, c.isDigit = false) :
    (whole ++ rest).span Char.isDigit = (whole, rest) := by
  have hstop : rest.takeWhile Char.isDigit = [] ∧ rest.dropWhile Char.isDigit = rest := by
    cases rest with
    | nil => exact ⟨rfl, rfl⟩
    | cons c rest => simp [hrest c rfl]
  rw [List.span_eq_takeWhile_dropWhile, List.takeWhile_append_of_pos hwhole,
    List.dropWhile_append_of_pos hwhole, hstop.1, hstop.2, List.append_nil]

theorem span_digits {digits : List Char} (h : ∀ c ∈ digits, c.isDigit) :
    digits.span Char.isDigit = (digits, []) := by
  have hspan := @span_isDigit digits [] h (by simp)
  rwa [List.append_nil] at hspan

theorem mem_of_mem_dropLastZeros {cs : List Char} {c : Char} (h : c ∈ dropLastZeros cs) : c ∈ cs :=
  List.mem_reverse.mp ((List.dropWhile_suffix _).subset (List.mem_reverse.mp h))

/-- Digits without a point spell a whole number. -/
theorem readMagnitude_whole {whole : List Char} (hne : whole ≠ [])
    (hwhole : ∀ c ∈ whole, c.isDigit) :
    readMagnitude? whole = some (nearestFloat (Nat.ofDigitChars 10 whole 0) 0) := by
  rw [readMagnitude?, span_digits hwhole]
  simp [hne, readExponent?, dropLastZeros, readDigits?_of_isDigit hwhole]

/-- Digits on both sides of a point spell a number, for which zeros at the end do not count. -/
theorem readMagnitude_numeral {whole fraction : List Char} (hne : whole ≠ [])
    (hwhole : ∀ c ∈ whole, c.isDigit) (hfraction : ∀ c ∈ fraction, c.isDigit) :
    readMagnitude? (whole ++ '.' :: fraction) =
      some (nearestFloat (Nat.ofDigitChars 10 (whole ++ dropLastZeros fraction) 0)
        (-((dropLastZeros fraction).length : Int))) := by
  have hdigits : ∀ c ∈ whole ++ dropLastZeros fraction, c.isDigit := fun c hc =>
    (List.mem_append.mp hc).elim (hwhole c) fun hmem => hfraction c (mem_of_mem_dropLastZeros hmem)
  rw [readMagnitude?, span_isDigit hwhole (by simp)]
  simp only [span_digits hfraction]
  simp [hne, readExponent?, readDigits?_of_isDigit hdigits]

/-- A fraction of zero changes nothing about how a number is read. -/
theorem readMagnitude_fraction {whole : List Char} (hne : whole ≠ [])
    (hwhole : ∀ c ∈ whole, c.isDigit) :
    readMagnitude? (whole ++ ['.', '0']) = readMagnitude? whole := by
  rw [readMagnitude_whole hne hwhole, readMagnitude_numeral hne hwhole (by simp)]
  simp [dropLastZeros]

theorem isDigit_of_mem_zeros {count : Nat} {c : Char} (h : c ∈ (FloatStyle.zeros count).toList) :
    c.isDigit := by
  rw [FloatStyle.zeros, String.toList_ofList] at h
  obtain rfl := List.eq_of_mem_replicate h
  rfl

/-- A positive number without exponent is a numeral in YAML, and is read like its text in events. -/
theorem numeral_positionalText {digits : String} (hne : digits.toList ≠ [])
    (hdigits : ∀ c ∈ digits.toList, c.isDigit) (place : Int) :
    Numeral (writtenFloat.positionalText digits place).toList ∧
      StartsDigit (eventFloat.positionalText digits place).toList ∧
      readMagnitude? (writtenFloat.positionalText digits place).toList =
        readMagnitude? (eventFloat.positionalText digits place).toList := by
  rw [FloatStyle.positionalText, FloatStyle.positionalText]
  split
  · have hnumeral : Numeral ("0." ++ FloatStyle.zeros (-place).toNat ++ digits).toList := by
      refine ⟨['0'], (FloatStyle.zeros (-place).toNat).toList ++ digits.toList, by simp, by simp,
        by simp [hne], by simp, fun c hc => ?_⟩
      rcases List.mem_append.mp hc with hc | hc
      · exact isDigit_of_mem_zeros hc
      · exact hdigits c hc
    exact ⟨hnumeral, hnumeral.startsDigit, rfl⟩
  rename_i hplace
  split
  · have hwhole : ∀ c ∈ digits.toList ++
        (FloatStyle.zeros (place.toNat - digits.length)).toList, c.isDigit := by
      intro c hc
      rcases List.mem_append.mp hc with hc | hc
      · exact hdigits c hc
      · exact isDigit_of_mem_zeros hc
    have hwritten : (digits ++ FloatStyle.zeros (place.toNat - digits.length) ++
        if writtenFloat.wholeFraction then ".0" else "").toList =
          (digits.toList ++ (FloatStyle.zeros (place.toNat - digits.length)).toList) ++
            ['.', '0'] := by
      simp [writtenFloat]
    have hevent : (digits ++ FloatStyle.zeros (place.toNat - digits.length) ++
        if eventFloat.wholeFraction then ".0" else "").toList =
          digits.toList ++ (FloatStyle.zeros (place.toNat - digits.length)).toList := by
      simp [eventFloat]
    rw [hwritten, hevent]
    refine ⟨⟨_, ['0'], rfl, by simp [hne], by simp, hwhole, by simp⟩,
      (startsDigit_of_isDigit hne hdigits).append _, ?_⟩
    exact readMagnitude_fraction (by simp [hne]) hwhole
  · rename_i hsize
    have hnumeral : Numeral ((digits.take place.toNat).toString ++ "." ++
        (digits.drop place.toNat).toString).toList := by
      refine ⟨digits.toList.take place.toNat, digits.toList.drop place.toNat, by simp, ?_, ?_,
        fun c hc => hdigits c (List.mem_of_mem_take hc),
        fun c hc => hdigits c (List.mem_of_mem_drop hc)⟩
      · simp [hne]
        omega
      · rw [← List.length_pos_iff, List.length_drop, String.length_toList]
        omega
    exact ⟨hnumeral, hnumeral.startsDigit, rfl⟩

/-! ## Floats -/

/-- A text that starts with a digit is read as digits. -/
theorem readUnsigned_startsDigit {cs : List Char} (h : StartsDigit cs) :
    readUnsigned? cs = readMagnitude? cs := by
  obtain ⟨c, ds, rfl, hc⟩ := h
  have hlower : c.toLower = c := by
    have hrange : 48 ≤ c.toNat ∧ c.toNat ≤ 57 := by
      simpa [Char.isDigit, UInt32.le_iff_toNat_le] using hc
    rw [Char.toLower, dif_neg]
    simp [UInt32.le_iff_toNat_le]
    omega
  have hname {name : String} (h : name.toList.head?.any Char.isDigit = false) :
      (String.ofList ((c :: ds).map Char.toLower) == name) = false := by
    rw [beq_eq_false_iff_ne]
    rintro rfl
    rw [String.toList_ofList, List.map_cons, hlower] at h
    exact Bool.false_ne_true (h.symm.trans hc)
  rw [readUnsigned?, hname (by decide), hname (by decide), hname (by decide)]
  rfl

/-- A text after a sign is read as a number, and then the sign counts. -/
theorem readFloat_signText {text : String} (h : StartsDigit text.toList) (negative : Bool) :
    readFloat? (FloatStyle.signText negative ++ text) =
      (readMagnitude? text.toList).map fun x => if negative then -x else x := by
  rw [← readUnsigned_startsDigit h]
  cases negative with
  | true =>
    rw [readFloat?, FloatStyle.signText, String.toList_append]
    rfl
  | false =>
    obtain ⟨c, ds, hcs, hc⟩ := h
    have hsign : c ≠ '-' ∧ c ≠ '+' := by
      constructor <;>
        rintro rfl <;>
        cases hc
    have hread : readFloat? text = readUnsigned? text.toList := by
      rw [readFloat?, hcs]
      simp [hsign]
    simpa [FloatStyle.signText] using hread

/-- A float that is a number and not infinite is finite. -/
theorem isFinite_of_parts {x : Float}
    (hinfinite : ∀ negative, FloatParts.ofFloat x ≠ .infinite negative)
    (hnumber : FloatParts.ofFloat x ≠ .notANumber) : x.isFinite := by
  have h : x.toBits.toNat / Nat.pow 2 52 % 2048 ≠ 2047 := by
    intro heq
    have hparts : FloatParts.ofFloat x = if x.toBits.toNat % Nat.pow 2 52 == 0
        then .infinite (x.toBits.toNat / Nat.pow 2 63 == 1) else .notANumber := by
      rw [FloatParts.ofFloat]
      simp only [heq, BEq.rfl, if_true]
    split at hparts
    · exact hinfinite _ hparts
    · exact hnumber hparts
  obtain ⟨⟨a, ha⟩⟩ := x
  have hexponent : FloatBits.exponent a.toBitVec ≠ -1#_ := by
    intro heq
    have hnat := congrArg BitVec.toNat heq
    rw [FloatBits.toNat_exponent] at hnat
    exact h hnat
  show (Float.Model.UnpackedFloat.unpack Float.Model.Format.binary64 a.toBitVec).isFinite = true
  rw [Float.Model.UnpackedFloat.unpack]
  simp only
  rw [if_neg hexponent]
  split
  · split <;> rfl
  · rfl

/-- The text of a float in events, and its text in YAML. -/
inductive FloatTexts (x : Float) : (event written : String) → Prop where
  | notANumber : FloatTexts x "NaN" ".nan"
  | infinite (negative : Bool) : FloatTexts x (FloatStyle.signText negative ++ "inf")
      (FloatStyle.signText negative ++ ".inf")
  | finite (hfinite : x.isFinite) (negative : Bool) {event written : String}
      (hwritten : Numeral written.toList) (hevent : StartsDigit event.toList)
      (hsame : readMagnitude? written.toList = readMagnitude? event.toList) :
      FloatTexts x (FloatStyle.signText negative ++ event)
        (FloatStyle.signText negative ++ written)

/-- The digits of a positive number. -/
theorem isDigit_of_mem_toString (n : Nat) :
    (toString n).toList ≠ [] ∧ ∀ c ∈ (toString n).toList, c.isDigit := by
  have hdigits : (toString n).toList = Nat.toDigits 10 n := Nat.toList_repr
  rw [hdigits]
  exact ⟨Nat.toDigits_ne_nil, fun c hc => isDigit_of_mem_toDigits hc⟩

/-- The texts of every float. -/
theorem floatTexts (x : Float) : FloatTexts x (eventFloat.text x) (writtenFloat.text x) := by
  rw [FloatStyle.text, FloatStyle.text]
  cases hparts : FloatParts.ofFloat x with
  | notANumber => exact .notANumber
  | infinite negative => exact .infinite negative
  | zero negative =>
    have hfinite : x.isFinite := isFinite_of_parts (by simp [hparts]) (by simp [hparts])
    have hdigit : ∀ c ∈ ['0'], c.isDigit := by simp
    exact .finite hfinite negative ⟨['0'], ['0'], rfl, by simp, by simp, hdigit, hdigit⟩
      ⟨'0', [], rfl, rfl⟩ (readMagnitude_fraction (by simp) hdigit)
  | finite negative magnitude =>
    have hfinite : x.isFinite := isFinite_of_parts (by simp [hparts]) (by simp [hparts])
    obtain ⟨hne, hdigits⟩ := isDigit_of_mem_toString (magnitude.shortest .up).digits
    obtain ⟨hnumeral, hstarts, hsame⟩ := numeral_positionalText hne hdigits
      ((magnitude.shortest .up).exponent + (toString (magnitude.shortest .up).digits).length)
    exact .finite hfinite negative hnumeral hstarts hsame

end ConfigSchema
