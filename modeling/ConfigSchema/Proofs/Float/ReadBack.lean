import ConfigSchema.Proofs.Decimal.Shortest
import ConfigSchema.Proofs.Event.Float
import ConfigSchema.Proofs.Float.Scientific

/-!
# Floats read back

The text of a float is read as the float. The digits that are written are the shortest ones that are
rounded to the float, and reading them rounds.

## Main statements

- `unpack_of_parts` — what a float is taken apart into is what it denotes
- `nearestFloat_eq` — a decimal is read as the float that it is rounded to
- `readMagnitude_positionalText` — the text of a decimal spells the decimal
- `readFloat?_text` — the text of a float is read as the float
-/

namespace ConfigSchema

open FloatBits Float.Model Float.Model.UnpackedFloat

/-! ## The parts of a float -/

/-- The sign of a float. -/
def signOf (negative : Bool) : Sign := if negative then .negative else .positive

/-- What a float is taken apart into is what it denotes. -/
inductive PartsOf (x : Float) : FloatParts → Prop
  | notANumber (h : x.toModel.unpack = .notANumber) : PartsOf x .notANumber
  | infinite (negative : Bool) (h : x.toModel.unpack = .infinity (signOf negative)) :
      PartsOf x (.infinite negative)
  | zero (negative : Bool) (h : x.toModel.unpack = .zero (signOf negative)) :
      PartsOf x (.zero negative)
  | finite (negative : Bool) {b : Binary} (hc : Canonical b.mantissa b.exponent)
      (hexponent : b.exponent ≤ 971)
      (hnarrow : b.narrowBelow ↔ b.mantissa = 2 ^ 52 ∧ b.exponent ≠ -1074)
      (h : x.toModel.unpack = .finite (signOf negative) b.mantissa b.exponent hc.pos) :
      PartsOf x (.finite negative b)

theorem signOf_toNat (s : BitVec 1) : signOf (s.toNat == 1) = Sign.ofBitVec s := by
  rcases BitVec.eq_zero_or_eq_one s with rfl | rfl <;> rfl

/-- Sign, exponent and mantissa of the bits are what a float is taken apart by. -/
theorem ofFloat_eq (x : Float) :
    FloatParts.ofFloat x =
      let bits := x.toModel.toBits.toBitVec
      let negative := (FloatBits.sign bits).toNat == 1
      let biased := (FloatBits.exponent bits).toNat
      let fraction := (FloatBits.mantissa bits).toNat
      if biased == 2047 then
        if fraction == 0 then .infinite negative else .notANumber
      else if biased == 0 then
        if fraction == 0 then .zero negative else .finite negative ⟨fraction, -1074, false⟩
      else
        .finite negative
          ⟨2 ^ 52 + fraction, (biased : Int) - 1075, fraction == 0 && biased != 1⟩ := by
  simp only [toNat_sign, toNat_exponent, toNat_mantissa]
  rfl

theorem partsOf (x : Float) : PartsOf x (FloatParts.ofFloat x) := by
  have hunpack : x.toModel.unpack = _ := unpack_eq x.toModel.toBits.toBitVec
  rw [ofFloat_eq]
  dsimp only
  rw [← signOf_toNat, ofComponents] at hunpack
  generalize FloatBits.sign x.toModel.toBits.toBitVec = sign at *
  generalize FloatBits.exponent x.toModel.toBits.toBitVec = exponent at *
  generalize FloatBits.mantissa x.toModel.toBits.toBitVec = mantissa at *
  have hones : exponent = -1#11 ↔ exponent.toNat = 2047 := BitVec.toNat_inj.symm
  have hzeros : exponent = 0#11 ↔ exponent.toNat = 0 := BitVec.toNat_inj.symm
  have hzero : mantissa = 0#52 ↔ mantissa.toNat = 0 := BitVec.toNat_inj.symm
  have hlt := mantissa.isLt
  have hexponent := exponent.isLt
  simp only [beq_iff_eq]
  split
  · rename_i hbiased
    rw [if_pos (hones.mpr hbiased)] at hunpack
    split
    · rename_i hfraction
      rw [if_pos (hzero.mpr hfraction)] at hunpack
      exact .infinite _ hunpack
    · rename_i hfraction
      rw [if_neg (hzero.not.mpr hfraction)] at hunpack
      exact .notANumber hunpack
  · rename_i hbiased
    rw [if_neg (hones.not.mpr hbiased)] at hunpack
    split
    · rename_i hsmall
      rw [if_pos (hzeros.mpr hsmall)] at hunpack
      split
      · rename_i hfraction
        rw [dif_pos (hzero.mpr hfraction)] at hunpack
        exact .zero _ hunpack
      · rename_i hfraction
        rw [dif_neg (hzero.not.mpr hfraction)] at hunpack
        have hc : Canonical mantissa.toNat (-1074) :=
          ⟨Nat.pos_of_ne_zero hfraction, by omega, le_rfl, .inr rfl⟩
        exact .finite _ hc (show (-1074 : Int) ≤ 971 by decide) (by simp) hunpack
    · rename_i hnormal
      rw [if_neg (hzeros.not.mpr hnormal)] at hunpack
      have hc : Canonical (2 ^ 52 + mantissa.toNat) (exponent.toNat - 1075) :=
        ⟨by omega, by omega, by omega, .inl (by omega)⟩
      refine .finite _ hc (show (exponent.toNat : Int) - 1075 ≤ 971 by omega) ?_ hunpack
      simp only [Bool.and_eq_true, beq_iff_eq, bne_iff_ne]
      omega

/-- A float is given by what it denotes. -/
theorem eq_of_unpack {x : Float} {u : UnpackedFloat} (h : x.toModel.unpack = u) :
    x = ⟨Float.Model.pack u⟩ := by
  obtain ⟨⟨bits, hvalid⟩⟩ := x
  have hpack : UnpackedFloat.pack .binary64 (UnpackedFloat.unpack .binary64 bits.toBitVec) =
      bits.toBitVec := pack_unpack_of_valid hvalid
  have hbits : Float.Model.pack u = ⟨bits, hvalid⟩ := by
    rw [← h, Float.Model.pack, Float.Model.mk.injEq]
    exact congrArg UInt64.ofBitVec hpack
  rw [hbits]

/-! ## Reading decimals -/

theorem two_zpow_le_ten_zpow {n : ℤ} (h : 0 ≤ n) : (2 : ℚ) ^ (3 * n) ≤ 10 ^ n := by
  rw [zpow_mul]
  exact zpow_le_zpow_left₀ h (by norm_num) (by norm_num)

theorem ten_zpow_le_two_zpow {n : ℤ} (h : n ≤ 0) : (10 : ℚ) ^ n ≤ 2 ^ (3 * n) := by
  have hneg := two_zpow_le_ten_zpow (neg_nonneg.mpr h)
  rw [mul_neg, zpow_neg, zpow_neg] at hneg
  exact (inv_le_inv₀ (by positivity) (by positivity)).mp hneg

/-- A number has as many digits as it is written with. -/
theorem length_toString_bounds {n : ℕ} (h : n ≠ 0) :
    10 ^ ((toString n).length - 1) ≤ n ∧ n < 10 ^ (toString n).length := by
  have hlength : (toString n).length = (Nat.toDigits 10 n).length := by
    rw [← String.length_toList, Nat.toString_eq_ofList_toDigits, String.toList_ofList]
  have hpos : 0 < (Nat.toDigits 10 n).length := Nat.length_toDigits_pos
  rw [hlength]
  refine ⟨?_, (Nat.length_toDigits_le_iff (by decide) hpos).mp le_rfl⟩
  rcases Nat.eq_or_lt_of_le (Nat.succ_le_of_lt hpos) with hone | hmore
  · rw [← hone]
    exact Nat.pos_of_ne_zero h
  · have hlonger : ¬(Nat.toDigits 10 n).length ≤ (Nat.toDigits 10 n).length - 1 := by omega
    rw [Nat.length_toDigits_le_iff (by decide) (by omega)] at hlonger
    exact not_lt.mp hlonger

/-- A decimal is read as the float that it is rounded to. -/
theorem nearestFloat_eq {digits m : ℕ} {k e : ℤ} (hc : Canonical m e) (he : e ≤ 971)
    (hx : RoundsTo (digits * 10 ^ k) m e) : nearestFloat digits k = positive m e hc.pos := by
  obtain ⟨hlow, hhigh⟩ := hx.bounds hc he
  have hne : digits ≠ 0 := by
    rintro rfl
    rw [Nat.cast_zero, zero_mul] at hlow
    exact absurd hlow (not_le.mpr (by positivity))
  obtain ⟨hleast, hmost⟩ := length_toString_bounds hne
  rw [nearestFloat, beq_false_of_ne hne]
  generalize (toString digits).length = size at *
  have hsmall : ¬(400 : ℤ) < k + size := by
    intro hlarge
    refine absurd hhigh (not_le.mpr ?_)
    have hsize : 0 < size := by
      rcases Nat.eq_zero_or_pos size with rfl | hpos
      · omega
      · exact hpos
    calc (2 : ℚ) ^ (1024 : ℤ) < 2 ^ (3 * 400 : ℤ) := zpow_lt_zpow_right₀ one_lt_two (by decide)
      _ ≤ 10 ^ (400 : ℤ) := two_zpow_le_ten_zpow (by decide)
      _ ≤ 10 ^ ((size - 1 : ℕ) + k) := zpow_le_zpow_right₀ (by norm_num) (by omega)
      _ = 10 ^ (size - 1) * 10 ^ k := by rw [zpow_add₀ (by norm_num), zpow_natCast]
      _ ≤ digits * 10 ^ k := by
        gcongr
        exact_mod_cast hleast
  have hlarge : ¬k + size < -400 := by
    intro hsmall
    refine absurd hlow (not_le.mpr ?_)
    calc digits * (10 : ℚ) ^ k ≤ 10 ^ size * 10 ^ k := by
          gcongr
          exact_mod_cast hmost.le
      _ = 10 ^ (size + k) := by rw [zpow_add₀ (by norm_num), zpow_natCast]
      _ ≤ 10 ^ (-401 : ℤ) := zpow_le_zpow_right₀ (by norm_num) (by omega)
      _ ≤ 2 ^ (3 * -401 : ℤ) := ten_zpow_le_two_zpow (by decide)
      _ < 2 ^ (-1075 : ℤ) := zpow_lt_zpow_right₀ one_lt_two (by decide)
  simp only [if_neg Bool.false_ne_true, if_neg hsmall, if_neg hlarge]
  split
  · rename_i hneg
    refine ofScientific_eq hc he ?_
    rwa [if_pos rfl, Int.toNat_of_nonneg (by omega), neg_neg]
  · rename_i hnonneg
    refine ofScientific_eq hc he ?_
    rwa [if_neg Bool.false_ne_true, Int.toNat_of_nonneg (by omega)]

/-- Only zeros are dropped. -/
theorem exists_dropLastZeros (cs : List Char) :
    ∃ count, cs = dropLastZeros cs ++ List.replicate count '0' := by
  have hsplit := congrArg List.reverse (cs.reverse.takeWhile_append_dropWhile (p := (· == '0')))
  rw [List.reverse_append, List.reverse_reverse] at hsplit
  have hzeros : ∀ c ∈ (cs.reverse.takeWhile (· == '0')).reverse, c = '0' := fun c hc =>
    eq_of_beq (List.mem_takeWhile_imp (List.mem_reverse.mp hc) :)
  refine ⟨(cs.reverse.takeWhile (· == '0')).reverse.length, ?_⟩
  rw [← List.eq_replicate_of_mem hzeros]
  exact hsplit.symm

/-- Digits after a point count as a fraction, whether zeros at the end are dropped or not. -/
theorem readMagnitude_point {whole fraction : List Char} (hne : whole ≠ [])
    (hwhole : ∀ c ∈ whole, c.isDigit) (hfraction : ∀ c ∈ fraction, c.isDigit) : ∃ digits k,
    readMagnitude? (whole ++ '.' :: fraction) = some (nearestFloat digits k) ∧
      (digits * 10 ^ k : ℚ) =
        Nat.ofDigitChars 10 (whole ++ fraction) 0 * 10 ^ (-(fraction.length : ℤ)) := by
  obtain ⟨count, hcount⟩ := exists_dropLastZeros fraction
  refine ⟨_, _, readMagnitude_numeral hne hwhole hfraction, ?_⟩
  generalize dropLastZeros fraction = kept at *
  subst hcount
  rw [← List.append_assoc, Nat.ofDigitChars_append (l := whole ++ kept),
    Nat.ofDigitChars_replicate_zero, List.length_append, List.length_replicate]
  push_cast
  rw [neg_add, zpow_add₀ (by norm_num), zpow_neg _ (count : ℤ), zpow_natCast]
  field_simp

/-- The text of a decimal spells the decimal. -/
theorem readMagnitude_positionalText (d : Decimal) : ∃ digits k,
    readMagnitude? (eventFloat.positionalText (toString d.digits)
      (d.exponent + (toString d.digits).length)).toList = some (nearestFloat digits k) ∧
    (digits * 10 ^ k : ℚ) = d.value := by
  obtain ⟨hne, hdigits⟩ := isDigit_of_mem_toString d.digits
  have hvalue : Nat.ofDigitChars 10 (toString d.digits).toList 0 = d.digits := by
    rw [Nat.toString_eq_ofList_toDigits, String.toList_ofList, Nat.ofDigitChars_ten_toDigits]
  have hsize : (toString d.digits).length = (toString d.digits).toList.length :=
    String.length_toList.symm
  have hzero : ∀ count, ∀ c ∈ List.replicate count '0', c.isDigit := fun count c hc => by
    obtain rfl := List.eq_of_mem_replicate hc
    rfl
  rw [Decimal.value, FloatStyle.positionalText, hsize]
  generalize (toString d.digits) = text at *
  split
  · -- zeros between the point and the digits
    rename_i hplace
    set count := (-(d.exponent + text.toList.length)).toNat with hcount
    obtain ⟨digits, k, hread, heq⟩ := @readMagnitude_point ['0']
      (List.replicate count '0' ++ text.toList) (by simp) (by simp) fun c hc =>
        (List.mem_append.mp hc).elim (hzero count c) (hdigits c)
    refine ⟨digits, k, by simpa [FloatStyle.zeros] using hread, heq.trans ?_⟩
    have hleading : Nat.ofDigitChars 10 (['0'] ++ (List.replicate count '0' ++ text.toList)) 0 =
        d.digits := by
      simpa [Nat.ofDigitChars_append, Nat.ofDigitChars_cons] using hvalue
    rw [hleading, List.length_append, List.length_replicate]
    congr 2
    push_cast
    omega
  · rename_i hplace
    split
    · -- zeros after the digits
      rename_i hshort
      obtain ⟨count, hcount⟩ : ∃ count,
          (d.exponent + text.toList.length).toNat = text.toList.length + count :=
        Nat.exists_eq_add_of_le hshort
      have hread := @readMagnitude_whole (text.toList ++ List.replicate count '0') (by simp [hne])
        fun c hc => (List.mem_append.mp hc).elim (hdigits c) (hzero count c)
      refine ⟨Nat.ofDigitChars 10 (text.toList ++ List.replicate count '0') 0, 0, ?_, ?_⟩
      · rw [hcount, Nat.add_sub_cancel_left]
        simpa [FloatStyle.zeros, eventFloat] using hread
      · rw [Nat.ofDigitChars_append, Nat.ofDigitChars_replicate_zero, hvalue,
          show d.exponent = count by omega, zpow_natCast, zpow_zero]
        push_cast
        ring
    · -- a point between the digits
      rename_i hlong
      have hread := @readMagnitude_point
        (text.toList.take (d.exponent + text.toList.length).toNat)
        (text.toList.drop (d.exponent + text.toList.length).toNat) (by simp [hne]; omega)
        (fun c hc => hdigits c (List.mem_of_mem_take hc))
        fun c hc => hdigits c (List.mem_of_mem_drop hc)
      obtain ⟨digits, k, hread, heq⟩ := hread
      refine ⟨digits, k, by simpa using hread, heq.trans ?_⟩
      rw [List.take_append_drop, hvalue, List.length_drop]
      congr 2
      omega

/-- The text of a float is read as the float. -/
theorem readFloat?_text (x : Float) : readFloat? (eventFloat.text x) = some x := by
  rw [FloatStyle.text]
  generalize hparts : FloatParts.ofFloat x = parts
  have hx := partsOf x
  rw [hparts] at hx
  cases hx with
  | notANumber h =>
    rw [eq_of_unpack h]
    rfl
  | infinite negative h =>
    rw [eq_of_unpack h]
    cases negative <;> rfl
  | zero negative h =>
    rw [eq_of_unpack h]
    cases negative <;> rfl
  | @finite negative b hc hexponent hnarrow h =>
    obtain ⟨digits, k, hread, hvalue⟩ := readMagnitude_positionalText (b.shortest eventFloat.tie)
    have hrounds : RoundsTo (digits * 10 ^ k) b.mantissa b.exponent :=
      hvalue ▸ Binary.roundsTo_shortest _ hc hnarrow
    obtain ⟨hne, hdigits⟩ := isDigit_of_mem_toString (b.shortest eventFloat.tie).digits
    obtain ⟨-, hstarts, -⟩ := numeral_positionalText hne hdigits
      ((b.shortest eventFloat.tie).exponent + (toString (b.shortest eventFloat.tie).digits).length)
    show readFloat? (FloatStyle.signText negative ++ eventFloat.positionalText _ _) = some x
    rw [readFloat_signText hstarts, hread, nearestFloat_eq hc hexponent hrounds, Option.map_some,
      eq_of_unpack h]
    cases negative with
    | false => rfl
    | true =>
      show some (⟨Float.Model.pack (positive _ _ _).toModel.unpack.neg⟩ : Float) = _
      rw [unpack_positive hc hexponent]
      rfl

end ConfigSchema
