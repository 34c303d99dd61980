import ConfigSchema.Proofs.Float
import ConfigSchema.Proofs.Float.Rounding

/-!
# Floats in scientific notation

A decimal in scientific notation is the float that it is rounded to. Small decimals are computed
from two floats that are exact, and others from integers, with the same result.

## Main definitions

- `positive` — the positive float with a mantissa and an exponent

## Main statements

- `unpack_pack_finite` — a positive float has its mantissa and its exponent
- `mul_eq`, `div_eq` — products and quotients are rounded
- `ofScientific_eq` — so are decimals
-/

namespace ConfigSchema.FloatBits

open Float.Model Float.Model.UnpackedFloat

/-! ## Mantissa and exponent of a float -/

/-- What sign, exponent and mantissa of a bit pattern denote. -/
def ofComponents (s : Sign) (exponent : BitVec 11) (mantissa : BitVec 52) : UnpackedFloat :=
  if exponent = -1#11 then if mantissa = 0#52 then .infinity s else .notANumber
  else if exponent = 0#11 then
    if h : mantissa = 0#52 then .zero s
    else .finite s mantissa.toNat (-1074)
      (Nat.pos_of_ne_zero fun hzero => h (BitVec.eq_of_toNat_eq hzero))
  else .finite s (2 ^ 52 + mantissa.toNat) (exponent.toNat - 1075) (by positivity)

theorem unpack_eq (b : BitVec 64) : UnpackedFloat.unpack .binary64 b =
    ofComponents (Sign.ofBitVec (sign b)) (exponent b) (mantissa b) := by
  rw [UnpackedFloat.unpack, ofComponents]
  split
  · rfl
  · split
    · rename_i hzero
      rw [hzero]
      rfl
    · simp only [toNat_one_append]
      rfl

theorem unpack_packComponents (s : Sign) (exponent : BitVec 11) (mantissa : BitVec 52) :
    UnpackedFloat.unpack .binary64 (packComponents .binary64 s exponent mantissa) =
      ofComponents s exponent mantissa := by
  have hsign : Sign.ofBitVec s.toBitVec = s := by
    cases s <;> rfl
  rw [unpack_eq, sign, FloatBits.exponent, FloatBits.mantissa, unpackSign_packComponents,
    unpackExponent_packComponents, unpackMantissa_packComponents, hsign]

/-- A finite float is packed without loss. -/
theorem unpack_pack_finite {m : ℕ} {e : ℤ} (hc : Canonical m e) (he : e ≤ 971) (s : Sign) :
    UnpackedFloat.unpack .binary64 (UnpackedFloat.pack .binary64 (.finite s m e hc.pos)) =
      .finite s m e hc.pos := by
  have hleast := hc.least
  have hbiased : (e + 1023 + 52).toNat + 1 < 2 ^ 11 := by omega
  have hpack : UnpackedFloat.pack .binary64 (.finite s m e hc.pos) =
      if m.log2 + 1 = 53 then
        packComponents .binary64 s (.ofNat 11 (e + 1023 + 52).toNat) (.ofNat 52 m)
      else packComponents .binary64 s 0#11 (.ofNat 52 m) := by
    rw [UnpackedFloat.pack]
    exact if_neg (Nat.not_le.mpr hbiased)
  have hlt := hc.lt
  have hlog : m.log2 + 1 = 53 ↔ 2 ^ 52 ≤ m := by
    have hbelow : m.log2 < 53 := (Nat.log2_lt hc.pos.ne').mpr hlt
    have habove : 52 ≤ m.log2 ↔ 2 ^ 52 ≤ m := Nat.le_log2 hc.pos.ne'
    omega
  rw [hpack]
  by_cases hfull : 2 ^ 52 ≤ m
  · have hexponent : (BitVec.ofNat 11 (e + 1023 + 52).toNat).toNat = (e + 1023 + 52).toNat := by
      rw [BitVec.toNat_ofNat]
      omega
    have hmantissa : (BitVec.ofNat 52 m).toNat = m - 2 ^ 52 := by
      rw [BitVec.toNat_ofNat]
      omega
    rw [if_pos (hlog.mpr hfull), unpack_packComponents, ofComponents, if_neg, if_neg]
    · rw [UnpackedFloat.finite.injEq, hexponent, hmantissa]
      exact ⟨rfl, by omega, by omega⟩
    · intro heq
      have hzero := congrArg BitVec.toNat heq
      rw [hexponent, BitVec.toNat_zero] at hzero
      omega
    · intro heq
      have hones := congrArg BitVec.toNat heq
      rw [hexponent] at hones
      change (e + 1023 + 52).toNat = 2047 at hones
      omega
  · have hmantissa : (BitVec.ofNat 52 m).toNat = m := by
      rw [BitVec.toNat_ofNat]
      omega
    have hne : BitVec.ofNat 52 m ≠ 0#52 := by
      intro heq
      have hzero := congrArg BitVec.toNat heq
      rw [hmantissa] at hzero
      exact hc.pos.ne' hzero
    obtain rfl := hc.full.resolve_left hfull
    rw [if_neg (fun h => hfull (hlog.mp h)), unpack_packComponents, ofComponents,
      if_neg (by decide), if_pos rfl, dif_neg hne, UnpackedFloat.finite.injEq, hmantissa]
    exact ⟨rfl, rfl, rfl⟩

/-- The positive float with a mantissa and an exponent. -/
def positive (m : ℕ) (e : ℤ) (h : 0 < m) : Float :=
  ⟨Float.Model.pack (.finite .positive m e h)⟩

theorem unpack_positive {m : ℕ} {e : ℤ} (hc : Canonical m e) (he : e ≤ 971) :
    (positive m e hc.pos).toModel.unpack = .finite .positive m e hc.pos :=
  unpack_pack_finite hc he .positive

/-! ## Products and quotients -/

theorem represents_exact (m : ℕ) (e : ℤ) :
    Represents (.ofMantissaAndAccuracy m .exact) (m * 2 ^ e / 2 ^ e) :=
  mul_div_cancel_right₀ _ (by positivity)

/-- A fraction is exact, or lies below, in or above the middle. -/
theorem represents_fraction (m : ℕ) {num den : ℕ} (h : num < den) :
    Represents (.ofMantissaAndAccuracy m (accuracyOfFraction num den)) (m + num / den) := by
  have hden : (0 : ℚ) < den := by
    exact_mod_cast (Nat.zero_le num).trans_lt h
  have hbelow : (num : ℚ) / den < 1 := (div_lt_one hden).mpr (by exact_mod_cast h)
  rw [accuracyOfFraction]
  split
  · rename_i hzero
    simp [hzero, Represents, ExtendedMantissa.ofMantissaAndAccuracy]
  · rename_i hne
    have habove : 0 < (num : ℚ) / den := div_pos (by exact_mod_cast Nat.pos_of_ne_zero hne) hden
    rcases lt_trichotomy (2 * num) den with hlt | heq | hgt
    · have hhalf : (num : ℚ) / den < 1 / 2 := by
        rw [div_lt_div_iff₀ hden two_pos]
        exact_mod_cast (by omega : num * 2 < 1 * den)
      rw [compare_lt_iff_lt.mpr hlt]
      exact ⟨lt_add_of_pos_right _ habove, (add_lt_add_iff_left _).mpr hhalf⟩
    · have hhalf : (num : ℚ) / den = 1 / 2 := by
        rw [div_eq_div_iff hden.ne' two_ne_zero]
        exact_mod_cast (by omega : num * 2 = 1 * den)
      rw [compare_eq_iff_eq.mpr heq, hhalf]
      rfl
    · have hhalf : 1 / 2 < (num : ℚ) / den := by
        rw [div_lt_div_iff₀ two_pos hden]
        exact_mod_cast (by omega : 1 * den < num * 2)
      rw [compare_gt_iff_gt.mpr hgt]
      exact ⟨(add_lt_add_iff_left _).mpr hhalf, (add_lt_add_iff_left _).mpr hbelow⟩

/-- The remainder of a division tells how far the quotient lies above the integer. -/
theorem represents_div (num : ℕ) {den : ℕ} (h : 0 < den) :
    Represents (.ofMantissaAndAccuracy (num / den) (accuracyOfFraction (num % den) den))
      (num / den) := by
  have hden : (den : ℚ) ≠ 0 := by exact_mod_cast h.ne'
  have hsplit : (num : ℚ) / den = (num / den : ℕ) + (num % den : ℕ) / den := by
    rw [eq_comm, ← eq_sub_iff_add_eq']
    field_simp
    rw [eq_sub_iff_add_eq']
    exact_mod_cast Nat.div_add_mod num den
  rw [hsplit]
  exact represents_fraction _ (Nat.mod_lt num h)

/-- A product is rounded, if its mantissa has all bits of a float. -/
theorem mul_finite {m₁ m₂ m : ℕ} {e₁ e₂ e : ℤ} {h₁ : 0 < m₁} {h₂ : 0 < m₂}
    (hfull : 2 ^ 52 ≤ m₁) (hc : Canonical m e)
    (hx : RoundsTo (m₁ * 2 ^ e₁ * (m₂ * 2 ^ e₂)) m e) :
    UnpackedFloat.mul .binary64 (.finite .positive m₁ e₁ h₁) (.finite .positive m₂ e₂ h₂) =
      .finite .positive m e hc.pos := by
  have hvalue : ((m₁ * m₂ : ℕ) : ℚ) * 2 ^ (e₁ + e₂) = m₁ * 2 ^ e₁ * (m₂ * 2 ^ e₂) := by
    rw [zpow_add₀ two_ne_zero]
    push_cast
    ring
  have hbits : 52 ≤ (m₁ * m₂).log2 :=
    (Nat.le_log2 (Nat.mul_pos h₁ h₂).ne').mpr (hfull.trans (Nat.le_mul_of_pos_right m₁ h₂))
  refine roundWithAccuracy_eq hc (hvalue ▸ hx) (represents_exact (m₁ * m₂) (e₁ + e₂)) ?_ _
  rw [targetExponent_eq, totalExponent]
  omega

/-- A quotient is rounded. -/
theorem div_finite {m₁ m₂ m : ℕ} {e₁ e₂ e : ℤ} {h₁ : 0 < m₁} {h₂ : 0 < m₂} (hc : Canonical m e)
    (hx : RoundsTo (m₁ * 2 ^ e₁ / (m₂ * 2 ^ e₂)) m e) :
    UnpackedFloat.div .binary64 (.finite .positive m₁ e₁ h₁) (.finite .positive m₂ e₂ h₂) =
      .finite .positive m e hc.pos := by
  set x : ℚ := m₁ * 2 ^ e₁ / (m₂ * 2 ^ e₂) with hvalue
  set target := min (e₁ - e₂)
    (Format.binary64.targetExponent (totalExponent m₁ e₁ - totalExponent m₂ e₂)) with htarget
  set num := m₁ <<< (e₁ - e₂ - target).toNat with hnum
  have hquotient : (num : ℚ) / m₂ = x / 2 ^ target := by
    have hcount : ((e₁ - e₂ - target).toNat : ℤ) = e₁ - e₂ - target := by omega
    have hpow : (2 : ℚ) ^ (e₁ - e₂ - target).toNat = 2 ^ e₁ / 2 ^ e₂ / 2 ^ target := by
      rw [← zpow_natCast, hcount, zpow_sub₀ two_ne_zero, zpow_sub₀ two_ne_zero]
    rw [hnum, hvalue, Nat.shiftLeft_eq, Nat.cast_mul, Nat.cast_pow, Nat.cast_ofNat, hpow]
    field_simp
  have hrep : Represents (.ofMantissaAndAccuracy (num / m₂) (accuracyOfFraction (num % m₂) m₂))
      (x / 2 ^ target) := hquotient ▸ represents_div num h₂
  -- the quotient has a bit less than the numbers of bits differ, or as many
  have hlow : 2 ^ (totalExponent m₁ e₁ - 1 - totalExponent m₂ e₂) < x := by
    have hleast : (2 : ℚ) ^ (totalExponent m₁ e₁ - 1) ≤ m₁ * 2 ^ e₁ :=
      (represents_exact m₁ e₁).two_zpow_le h₁.ne'
    have hmost : (m₂ : ℚ) * 2 ^ e₂ < 2 ^ totalExponent m₂ e₂ :=
      (represents_exact m₂ e₂).lt_two_zpow
    have hpos : (0 : ℚ) < m₂ * 2 ^ e₂ := by positivity
    calc (2 : ℚ) ^ (totalExponent m₁ e₁ - 1 - totalExponent m₂ e₂)
        = 2 ^ (totalExponent m₁ e₁ - 1) / 2 ^ totalExponent m₂ e₂ := zpow_sub₀ two_ne_zero _ _
      _ ≤ m₁ * 2 ^ e₁ / 2 ^ totalExponent m₂ e₂ := by gcongr
      _ < x := div_lt_div_of_pos_left (by positivity) hpos hmost
  have hhigh := hrep.lt_two_zpow
  rw [mantissa_ofMantissaAndAccuracy] at hhigh
  have hbits := (zpow_lt_zpow_iff_right₀ one_lt_two).mp (hlow.trans hhigh)
  refine roundWithAccuracy_eq hc hx hrep ?_ _
  rw [targetExponent_eq] at htarget ⊢
  omega

theorem mul_eq {a b : Float} {m₁ m₂ m : ℕ} {e₁ e₂ e : ℤ} {h₁ : 0 < m₁} {h₂ : 0 < m₂}
    (ha : a.toModel.unpack = .finite .positive m₁ e₁ h₁)
    (hb : b.toModel.unpack = .finite .positive m₂ e₂ h₂) (hfull : 2 ^ 52 ≤ m₁)
    (hc : Canonical m e) (hx : RoundsTo (m₁ * 2 ^ e₁ * (m₂ * 2 ^ e₂)) m e) :
    a * b = positive m e hc.pos := by
  show (⟨Float.Model.pack (UnpackedFloat.mul .binary64 _ _)⟩ : Float) = _
  rw [ha, hb, mul_finite hfull hc hx, positive]

theorem div_eq {a b : Float} {m₁ m₂ m : ℕ} {e₁ e₂ e : ℤ} {h₁ : 0 < m₁} {h₂ : 0 < m₂}
    (ha : a.toModel.unpack = .finite .positive m₁ e₁ h₁)
    (hb : b.toModel.unpack = .finite .positive m₂ e₂ h₂) (hc : Canonical m e)
    (hx : RoundsTo (m₁ * 2 ^ e₁ / (m₂ * 2 ^ e₂)) m e) : a / b = positive m e hc.pos := by
  show (⟨Float.Model.pack (UnpackedFloat.div .binary64 _ _)⟩ : Float) = _
  rw [ha, hb, div_finite hc hx, positive]

/-! ## Integers -/

theorem log2_shiftLeft {n : ℕ} (h : n ≠ 0) (count : ℕ) : (n <<< count).log2 = n.log2 + count := by
  have hne : n <<< count ≠ 0 := by simpa [Nat.shiftLeft_eq] using h
  rw [Nat.log2_eq_iff hne, Nat.shiftLeft_eq, pow_add, Nat.add_right_comm, pow_add]
  have hpos : 0 < 2 ^ count := by positivity
  exact ⟨Nat.mul_le_mul_right _ (Nat.log2_self_le h),
    Nat.mul_lt_mul_of_pos_right Nat.lt_log2_self hpos⟩

/-- An integer is rounded. -/
theorem round_eq {n m : ℕ} {e : ℤ} (hn : n ≠ 0) (hc : Canonical m e) (hx : RoundsTo n m e)
    (s : Sign) : UnpackedFloat.round .binary64 s n 0 = .finite s m e hc.pos := by
  set target := Format.binary64.targetExponent (totalExponent n 0) with htarget
  set count := (0 - target).toNat with hcount
  have hvalue : ((n <<< count : ℕ) : ℚ) * 2 ^ (0 - count : ℤ) = n := by
    rw [zero_sub, zpow_neg, zpow_natCast, Nat.shiftLeft_eq]
    push_cast
    field_simp
  have henough : (0 - count : ℤ) ≤
      Format.binary64.targetExponent (totalExponent (n <<< count) (0 - count)) := by
    rw [targetExponent_eq, totalExponent] at htarget ⊢
    rw [log2_shiftLeft hn]
    omega
  exact roundWithAccuracy_eq hc (hvalue.symm ▸ hx) (represents_exact _ _) henough s

/-- A small integer has the mantissa and the exponent of a float. -/
theorem exists_canonical {n : ℕ} (hn : n ≠ 0) (hlt : n < 2 ^ 53) :
    ∃ m e, Canonical m e ∧ e ≤ 0 ∧ 2 ^ 52 ≤ m ∧ (m * 2 ^ e : ℚ) = n := by
  have hbits : n.log2 < 53 := (Nat.log2_lt hn).mpr hlt
  obtain ⟨count, hcount⟩ : ∃ count, n.log2 + count = 52 := ⟨52 - n.log2, by omega⟩
  have hpos : 0 < 2 ^ count := by positivity
  have hfull : 2 ^ 52 ≤ n <<< count := by
    rw [Nat.shiftLeft_eq, ← hcount, pow_add]
    exact Nat.mul_le_mul_right _ (Nat.log2_self_le hn)
  have hmost : n <<< count < 2 ^ 53 := by
    rw [Nat.shiftLeft_eq, show 53 = n.log2 + 1 + count by omega, pow_add]
    exact Nat.mul_lt_mul_of_pos_right Nat.lt_log2_self hpos
  have hvalue : ((n <<< count : ℕ) : ℚ) * 2 ^ (-count : ℤ) = n := by
    rw [zpow_neg, zpow_natCast, Nat.shiftLeft_eq]
    push_cast
    field_simp
  exact ⟨n <<< count, -count, ⟨hfull.trans_lt' (by positivity), hmost, by omega, .inl hfull⟩,
    by omega, hfull, hvalue⟩

/-- A small integer is a float. -/
theorem unpack_toFloat {n : ℕ} (hn : n ≠ 0) (hlt : n < 2 ^ 53) :
    ∃ m e h, n.toUInt64.toFloat.toModel.unpack = .finite .positive m e h ∧ 2 ^ 52 ≤ m ∧
      (m * 2 ^ e : ℚ) = n := by
  obtain ⟨m, e, hc, he, hfull, hvalue⟩ := exists_canonical hn hlt
  have hround : UnpackedFloat.ofUInt64 .binary64 n.toUInt64 = .finite .positive m e hc.pos := by
    have hnat : n.toUInt64.toNat = n := Nat.mod_eq_of_lt (by omega)
    have hgt : compare (n : ℤ) 0 = .gt := compare_gt_iff_gt.mpr (by omega)
    rw [UnpackedFloat.ofUInt64, hnat, UnpackedFloat.ofNat, UnpackedFloat.ofInt,
      UnpackedFloat.normalize, hgt]
    exact round_eq hn hc (hvalue ▸ .self _ _) .positive
  refine ⟨_, _, hc.pos, ?_, hfull, hvalue⟩
  show UnpackedFloat.unpack .binary64 (UnpackedFloat.pack .binary64 _) = _
  rw [hround]
  exact unpack_pack_finite hc (by omega) .positive

/-- The float is a power of ten. -/
def isPowerOfTen (k : ℕ) : UnpackedFloat → Bool
  | .finite .positive m e _ => m * 2 ^ e.toNat == 10 ^ k * 2 ^ (-e).toNat
  | _ => false

theorem isPowerOfTen_exactlyRepresentable :
    ∀ k : Fin Float.exactlyRepresentablePowersOfTen.size,
      isPowerOfTen k Float.exactlyRepresentablePowersOfTen[k].toModel.unpack := by
  decide

/-- The powers of ten that are floats. -/
theorem unpack_powerOfTen (k : ℕ) (h : k < Float.exactlyRepresentablePowersOfTen.size) :
    ∃ m e hm, Float.exactlyRepresentablePowersOfTen[k].toModel.unpack =
      .finite .positive m e hm ∧ (m * 2 ^ e : ℚ) = 10 ^ k := by
  have hpower := isPowerOfTen_exactlyRepresentable ⟨k, h⟩
  revert hpower
  generalize Float.exactlyRepresentablePowersOfTen[k].toModel.unpack = u
  intro hpower
  match u with
  | .finite .positive m e hm =>
    refine ⟨m, e, hm, rfl, ?_⟩
    have hnat : m * 2 ^ e.toNat = 10 ^ k * 2 ^ (-e).toNat := eq_of_beq hpower
    rw [zpow_eq_div_pow two_ne_zero, ← mul_div_assoc, div_eq_iff (by positivity)]
    exact_mod_cast hnat

/-! ## Decimals -/

/-- What is rounded to a float is neither too small nor too large. -/
theorem RoundsTo.bounds {x : ℚ} {m : ℕ} {e : ℤ} (hx : RoundsTo x m e) (hc : Canonical m e)
    (he : e ≤ 971) : 2 ^ (-1075 : ℤ) ≤ x ∧ x ≤ 2 ^ (1024 : ℤ) := by
  have hpos : (0 : ℚ) < 2 ^ e := by positivity
  have hone : (1 : ℚ) ≤ m := by exact_mod_cast hc.pos
  have hmost : (m : ℚ) + 1 ≤ 2 ^ 53 := by exact_mod_cast hc.lt
  constructor
  · calc (2 : ℚ) ^ (-1075 : ℤ) = 2 ^ (-1 : ℤ) * 2 ^ (-1074 : ℤ) := by
          rw [← zpow_add₀ two_ne_zero]
          rfl
      _ ≤ (m - 1 / 2) * 2 ^ e := by
          refine mul_le_mul ?_ (zpow_le_zpow_right₀ one_le_two hc.least) (by positivity) ?_ <;>
            norm_num <;>
            linarith
      _ ≤ x := hx.lower
  · calc x ≤ (m + 1 / 2) * 2 ^ e := hx.upper
      _ ≤ 2 ^ (53 : ℤ) * 2 ^ (971 : ℤ) := by
          refine mul_le_mul ?_ (zpow_le_zpow_right₀ one_le_two he) (by positivity) (by positivity)
          norm_num at hmost ⊢
          linarith
      _ = 2 ^ (1024 : ℤ) := by
          rw [← zpow_add₀ two_ne_zero]
          rfl

/-- A decimal is the float that it is rounded to. -/
theorem ofScientific_finite {digits m : ℕ} {k e : ℤ} (hc : Canonical m e) (he : e ≤ 971)
    (hx : RoundsTo (digits * 10 ^ k) m e) :
    UnpackedFloat.ofScientific .binary64 digits k = .finite .positive m e hc.pos := by
  obtain ⟨hlow, hhigh⟩ := hx.bounds hc he
  have hne : digits ≠ 0 := by
    rintro rfl
    rw [Nat.cast_zero, zero_mul] at hlow
    exact absurd hlow (not_le.mpr (by positivity))
  have hmost : ¬k > 2 ^ 11 := by
    intro hlarge
    refine absurd hhigh (not_le.mpr ?_)
    calc (2 : ℚ) ^ (1024 : ℤ) < 2 ^ k := zpow_lt_zpow_right₀ one_lt_two (by omega)
      _ ≤ 10 ^ k := zpow_le_zpow_left₀ (by omega) two_pos.le (by norm_num)
      _ ≤ digits * 10 ^ k := by
        refine le_mul_of_one_le_left (by positivity) ?_
        exact_mod_cast Nat.pos_of_ne_zero hne
  have hleast : ¬k < -(2 ^ 11 + digits.log2) := by
    intro hsmall
    refine absurd hlow (not_le.mpr ?_)
    have hpow : (10 : ℚ) ^ k ≤ 2 ^ k := by
      have hneg : (2 : ℚ) ^ (-k) ≤ 10 ^ (-k) :=
        zpow_le_zpow_left₀ (by omega) two_pos.le (by norm_num)
      rw [zpow_neg, zpow_neg] at hneg
      exact (inv_le_inv₀ (by positivity) (by positivity)).mp hneg
    calc digits * (10 : ℚ) ^ k ≤ 2 ^ (digits.log2 + 1 : ℤ) * 2 ^ k := by
          gcongr
          exact_mod_cast Nat.lt_log2_self.le
      _ = 2 ^ (digits.log2 + 1 + k) := (zpow_add₀ two_ne_zero _ _).symm
      _ < 2 ^ (-1075 : ℤ) := zpow_lt_zpow_right₀ one_lt_two (by omega)
  rw [UnpackedFloat.ofScientific, dif_neg hne, if_neg hmost, if_neg hleast]
  split
  · rename_i hnonneg
    have hfull : 2 ^ 52 ≤ digits <<< Format.binary64.mantissaBits := by
      rw [Nat.shiftLeft_eq]
      exact (Nat.pow_le_pow_right two_pos (by decide)).trans
        (Nat.le_mul_of_pos_left _ (Nat.pos_of_ne_zero hne))
    have hvalue : ((digits <<< Format.binary64.mantissaBits : ℕ) : ℚ) *
        2 ^ (-Format.binary64.mantissaBits : ℤ) * ((10 ^ k.toNat : ℕ) * 2 ^ (0 : ℤ)) =
          digits * 10 ^ k := by
      rw [Nat.shiftLeft_eq, zpow_eq_div_pow (by norm_num) k,
        Int.toNat_of_nonpos (z := -k) (by omega), zpow_neg, zpow_natCast]
      push_cast
      field_simp
    rw [← hvalue] at hx
    exact mul_finite hfull hc hx
  · rename_i hneg
    have hvalue : (digits : ℚ) * 2 ^ (0 : ℤ) / ((10 ^ (-k).toNat : ℕ) * 2 ^ (0 : ℤ)) =
        digits * 10 ^ k := by
      rw [zpow_eq_div_pow (by norm_num) k, Int.toNat_of_nonpos (z := k) (by omega)]
      push_cast
      field_simp
    rw [← hvalue] at hx
    exact div_finite hc hx

/-- A decimal is the float that it is rounded to, however it is computed. -/
theorem ofScientific_eq {digits places m : ℕ} {negative : Bool} {e : ℤ} (hc : Canonical m e)
    (he : e ≤ 971)
    (hx : RoundsTo (digits * 10 ^ (if negative then -(places : ℤ) else places)) m e) :
    Float.ofScientific digits negative places = positive m e hc.pos := by
  have hne : digits ≠ 0 := by
    rintro rfl
    have hlow := (hx.bounds hc he).1
    rw [Nat.cast_zero, zero_mul] at hlow
    exact absurd hlow (not_le.mpr (by positivity))
  rw [Float.ofScientific]
  split
  · rename_i hsmall
    obtain ⟨m₁, e₁, h₁, hdigits, hfull, hvalue₁⟩ := unpack_toFloat hne hsmall.1
    obtain ⟨m₂, e₂, h₂, hpower, hvalue₂⟩ := unpack_powerOfTen places (Nat.lt_succ_of_le hsmall.2)
    cases negative with
    | true =>
      have hquotient : (m₁ * 2 ^ e₁ / (m₂ * 2 ^ e₂) : ℚ) = digits * 10 ^ (-(places : ℤ)) := by
        rw [hvalue₁, hvalue₂, zpow_neg, zpow_natCast, div_eq_mul_inv]
      rw [if_pos rfl, ← hquotient] at hx
      exact div_eq hdigits hpower hc hx
    | false =>
      have hproduct : (m₁ * 2 ^ e₁ * (m₂ * 2 ^ e₂) : ℚ) = digits * 10 ^ (places : ℤ) := by
        rw [hvalue₁, hvalue₂, zpow_natCast]
      rw [if_neg Bool.false_ne_true, ← hproduct] at hx
      exact mul_eq hdigits hpower hfull hc hx
  · have hexponent : (if negative then Int.negOfNat places else Int.ofNat places) =
        if negative then -(places : ℤ) else places := by
      rw [Int.negOfNat_eq]
      rfl
    show (⟨Float.Model.pack (UnpackedFloat.ofScientific .binary64 digits _)⟩ : Float) = _
    rw [hexponent, ofScientific_finite hc he hx]
    rfl

end ConfigSchema.FloatBits
