import Mathlib

/-!
# Rounding to floats

A number between the middles to the neighbours of a float is rounded to this float. A middle itself
is rounded to the neighbour with the even mantissa.

## Main definitions

- `Represents` — a mantissa and what is known of the bits after it stand for a number
- `Canonical` — the mantissa and the exponent of a positive float
- `RoundsTo` — the numbers that are rounded to a positive float

## Main statements

- `Represents.shiftRight` — bits that are shifted out are not lost
- `Represents.roundedMantissa_eq` — a mantissa is rounded to the nearest integer
- `roundWithAccuracy_eq` — a number is rounded to the float that `RoundsTo` says
-/

namespace ConfigSchema.FloatBits

open Float.Model Float.Model.UnpackedFloat

/-- A power is a fraction of powers with exponents that are not negative. -/
theorem zpow_eq_div_pow {b : ℚ} (h : b ≠ 0) (e : ℤ) :
    b ^ e = b ^ e.toNat / b ^ (-e).toNat := by
  rw [← zpow_natCast, ← zpow_natCast, ← zpow_sub₀ h]
  congr 1
  omega

/-! ## Mantissas -/

/-- The number lies above the mantissa by as much as the further bits tell. -/
def Represents (em : ExtendedMantissa) (x : ℚ) : Prop :=
  match em.roundBit, em.stickyBit with
  | false, false => x = em.mantissa
  | false, true => em.mantissa < x ∧ x < em.mantissa + 1 / 2
  | true, false => x = em.mantissa + 1 / 2
  | true, true => em.mantissa + 1 / 2 < x ∧ x < em.mantissa + 1

namespace Represents

variable {em : ExtendedMantissa} {x : ℚ}

theorem le (h : Represents em x) : em.mantissa ≤ x := by
  obtain ⟨m, roundBit, stickyBit⟩ := em
  cases roundBit <;> cases stickyBit <;> simp only [Represents] at h ⊢ <;> linarith

theorem lt (h : Represents em x) : x < em.mantissa + 1 := by
  obtain ⟨m, roundBit, stickyBit⟩ := em
  cases roundBit <;> cases stickyBit <;> simp only [Represents] at h ⊢ <;> linarith

/-- The last bit of a mantissa becomes the first one after it. -/
theorem shiftRightOne (h : Represents em x) : Represents em.shiftRightOne (x / 2) := by
  obtain ⟨m, roundBit, stickyBit⟩ := em
  have hsplit : (m : ℚ) = 2 * (m / 2 : ℕ) + (m % 2 : ℕ) := by
    exact_mod_cast (Nat.div_add_mod m 2).symm
  rcases Nat.mod_two_eq_zero_or_one m with hbit | hbit <;>
    cases roundBit <;> cases stickyBit <;>
      simp [Represents, ExtendedMantissa.shiftRightOne, hbit, hsplit] at h ⊢ <;>
        (try constructor) <;> linarith

theorem shiftRight (h : Represents em x) (count : ℕ) :
    Represents (em >>> count) (x / 2 ^ count) := by
  show Represents (Nat.repeat ExtendedMantissa.shiftRightOne count em) (x / 2 ^ count)
  induction count with
  | zero => simpa [Nat.repeat] using h
  | succ count ih =>
    rw [Nat.repeat, pow_succ, ← div_div]
    exact ih.shiftRightOne

/-- A mantissa is rounded to the nearest integer, and from the middle to the even one. -/
theorem roundedMantissa_eq (h : Represents em x) {n : ℕ} (hlow : n - 1 / 2 ≤ x)
    (hhigh : x ≤ n + 1 / 2) (hodd : n % 2 = 1 → n - 1 / 2 < x ∧ x < n + 1 / 2) :
    em.roundedMantissa = n := by
  have hle := h.le
  have hlt := h.lt
  have hclose : em.mantissa = n ∨ em.mantissa + 1 = n := by
    have hleast : (n : ℚ) < em.mantissa + 2 := by linarith
    have hmost : (em.mantissa : ℚ) < n + 1 := by linarith
    norm_cast at hleast hmost
    omega
  obtain ⟨m, roundBit, stickyBit⟩ := em
  cases roundBit <;> cases stickyBit <;> simp only [Represents] at h <;>
    rcases hclose with rfl | rfl
  · rfl
  · push_cast at hlow
    linarith
  · rfl
  · push_cast at hlow
    linarith
  · -- in the middle above, which belongs to an even mantissa
    have heven : m % 2 ≠ 1 := fun hm => (hodd hm).2.ne h
    show m + m % 2 = m
    omega
  · have heven : (m + 1) % 2 ≠ 1 := fun hm => by
      have hstrict := (hodd hm).1
      push_cast at hstrict
      linarith
    show m + m % 2 = m + 1
    omega
  · linarith
  · rfl

/-- The first bit of the mantissa is the first bit of the number. -/
theorem lt_two_zpow {e : ℤ} (h : Represents em (x / 2 ^ e)) :
    x < 2 ^ totalExponent em.mantissa e := by
  have hpos : (0 : ℚ) < 2 ^ e := by positivity
  have hbits : (em.mantissa : ℚ) + 1 ≤ 2 ^ (em.mantissa.log2 + 1) := by
    exact_mod_cast Nat.succ_le_of_lt Nat.lt_log2_self
  calc x < (em.mantissa + 1) * 2 ^ e := (div_lt_iff₀ hpos).mp h.lt
    _ ≤ 2 ^ (em.mantissa.log2 + 1) * 2 ^ e := by gcongr
    _ = 2 ^ totalExponent em.mantissa e := by
      rw [totalExponent, zpow_add₀ two_ne_zero]
      norm_cast

theorem two_zpow_le {e : ℤ} (h : Represents em (x / 2 ^ e)) (hne : em.mantissa ≠ 0) :
    2 ^ (totalExponent em.mantissa e - 1) ≤ x := by
  have hpos : (0 : ℚ) < 2 ^ e := by positivity
  have hbits : (2 : ℚ) ^ em.mantissa.log2 ≤ em.mantissa := by
    exact_mod_cast Nat.log2_self_le hne
  calc (2 : ℚ) ^ (totalExponent em.mantissa e - 1) = 2 ^ em.mantissa.log2 * 2 ^ e := by
        rw [totalExponent, show (em.mantissa.log2 : ℤ) + 1 + e - 1 = em.mantissa.log2 + e by ring,
          zpow_add₀ two_ne_zero, zpow_natCast]
    _ ≤ em.mantissa * 2 ^ e := by gcongr
    _ ≤ x := (le_div_iff₀ hpos).mp h.le

end Represents

/-! ## Exponents -/

/-- Floats have 53 bits, the last of which has at least the place -1074. -/
theorem targetExponent_eq (n : ℤ) : Format.binary64.targetExponent n = max (n - 53) (-1074) := rfl

theorem mantissa_ofMantissaAndAccuracy (m : ℕ) (accuracy : Accuracy) :
    (ExtendedMantissa.ofMantissaAndAccuracy m accuracy).mantissa = m := by
  match accuracy with
  | .exact | .inexact .lt | .inexact .eq | .inexact .gt => rfl

/-- A mantissa that has all bits of a float is cut to these bits. -/
theorem exists_shiftToTargetExponent {m : ℕ} {e : ℤ} {accuracy : Accuracy} {x : ℚ}
    (h : Represents (.ofMantissaAndAccuracy m accuracy) (x / 2 ^ e))
    (he : e ≤ Format.binary64.targetExponent (totalExponent m e)) :
    ∃ em, shiftToTargetExponent .binary64 m e accuracy =
        (em, Format.binary64.targetExponent (totalExponent m e)) ∧
      Represents em (x / 2 ^ Format.binary64.targetExponent (totalExponent m e)) := by
  set target := Format.binary64.targetExponent (totalExponent m e) with htarget
  have hcount : e + (target - e).toNat = target := by omega
  refine ⟨_, Prod.ext rfl hcount, ?_⟩
  have hshift := h.shiftRight (target - e).toNat
  rwa [div_div, ← zpow_natCast, ← zpow_add₀ two_ne_zero, hcount] at hshift

/-! ## Floats -/

/-- The mantissa and the exponent of a positive float: the mantissa has as many bits as there can
be. -/
structure Canonical (m : ℕ) (e : ℤ) : Prop where
  pos : 0 < m
  lt : m < 2 ^ 53
  least : -1074 ≤ e
  full : 2 ^ 52 ≤ m ∨ e = -1074

/-- The numbers that are rounded to a positive float: those up to the middles to its neighbours,
which belong to it if its mantissa is even. Below a power of two the neighbour is nearer. -/
structure RoundsTo (x : ℚ) (m : ℕ) (e : ℤ) : Prop where
  lower : (m - 1 / 2) * 2 ^ e ≤ x
  upper : x ≤ (m + 1 / 2) * 2 ^ e
  inside : m % 2 = 1 → (m - 1 / 2) * 2 ^ e < x ∧ x < (m + 1 / 2) * 2 ^ e
  narrow : m = 2 ^ 52 → e ≠ -1074 → (m - 1 / 4) * 2 ^ e ≤ x

/-- A float is rounded to itself. -/
theorem RoundsTo.self (m : ℕ) (e : ℤ) : RoundsTo (m * 2 ^ e) m e := by
  have hpos : (0 : ℚ) < 2 ^ e := by positivity
  exact ⟨by nlinarith, by nlinarith, fun _ => ⟨by nlinarith, by nlinarith⟩,
    fun _ _ => by nlinarith⟩

namespace Canonical

variable {m : ℕ} {e : ℤ}

/-- The exponent of a float has the place of its last bit. -/
theorem targetExponent (h : Canonical m e) :
    Format.binary64.targetExponent (totalExponent m e) = e := by
  have hbits : m.log2 < 53 := (Nat.log2_lt h.pos.ne').mpr h.lt
  rw [targetExponent_eq, totalExponent]
  have hleast := h.least
  rcases h.full with hfull | rfl
  · have hbits : 52 ≤ m.log2 := (Nat.le_log2 h.pos.ne').mpr hfull
    omega
  · omega

theorem shiftToTargetExponent (h : Canonical m e) :
    shiftToTargetExponent .binary64 m e .exact = (⟨m, false, false⟩, e) := by
  rw [UnpackedFloat.shiftToTargetExponent, h.targetExponent, shiftToExponent, sub_self]
  simp [HShiftRight.hShiftRight, Nat.repeat, ExtendedMantissa.ofMantissaAndAccuracy]

end Canonical

/-- With one bit too many a power of two has a zero at its end. -/
theorem shiftToTargetExponent_carry {e : ℤ} (he : -1074 ≤ e) :
    shiftToTargetExponent .binary64 (2 ^ 53) e .exact = (⟨2 ^ 52, false, false⟩, e + 1) := by
  have htarget : Format.binary64.targetExponent (totalExponent (2 ^ 53) e) = e + 1 := by
    rw [targetExponent_eq, totalExponent, Nat.log2_two_pow]
    omega
  rw [shiftToTargetExponent, htarget, shiftToExponent, show e + 1 - e = 1 by ring]
  rfl

/-- A number that is rounded to a float has the last place of the float, unless it is below the
power of two that is the float. -/
theorem targetExponent_of_roundsTo {x : ℚ} {m : ℕ} {e : ℤ} (hc : Canonical m e)
    (hx : RoundsTo x m e) {em : ExtendedMantissa} {e' : ℤ} (h : Represents em (x / 2 ^ e'))
    (he : e' ≤ Format.binary64.targetExponent (totalExponent em.mantissa e')) :
    Format.binary64.targetExponent (totalExponent em.mantissa e') = e ∨
      (Format.binary64.targetExponent (totalExponent em.mantissa e') = e - 1 ∧
        m = 2 ^ 52 ∧ e ≠ -1074 ∧ x < m * 2 ^ e) := by
  have hlow := h.two_zpow_le
  have hhigh := h.lt_two_zpow
  rw [targetExponent_eq] at he ⊢
  set bits := totalExponent em.mantissa e' with hbits
  have hmost : ∀ k : ℤ, -1074 ≤ k → x < 2 ^ (53 + k) → max (bits - 53) (-1074) ≤ k := by
    intro k hk hlt
    by_cases hzero : em.mantissa = 0
    · -- nothing but bits that are cut off
      rw [hzero, totalExponent, Nat.log2_zero] at hbits
      omega
    · have hbelow := (zpow_lt_zpow_iff_right₀ one_lt_two).mp ((hlow hzero).trans_lt hlt)
      omega
  have hleast : ∀ k : ℤ, 2 ^ (52 + k) ≤ x → k ≤ max (bits - 53) (-1074) := by
    intro k hle
    have habove := (zpow_lt_zpow_iff_right₀ one_lt_two).mp (hle.trans_lt hhigh)
    omega
  have hpos : (0 : ℚ) < 2 ^ e := by positivity
  have hlt : x < 2 ^ (53 + e) := by
    have hm : (m : ℚ) + 1 ≤ 2 ^ 53 := by exact_mod_cast hc.lt
    rw [zpow_add₀ two_ne_zero]
    calc x ≤ (m + 1 / 2) * 2 ^ e := hx.upper
      _ < 2 ^ (53 : ℤ) * 2 ^ e := by gcongr; norm_num at hm ⊢; linarith
  have hle : -1074 ≤ e := hc.least
  by_cases hbinade : 2 ^ (52 + e) ≤ x
  · exact .inl (le_antisymm (hmost e hle hlt) (hleast e hbinade))
  have hbelow : x < 2 ^ 52 * 2 ^ e := by
    rw [zpow_add₀ two_ne_zero] at hbinade
    exact_mod_cast not_le.mp hbinade
  rcases eq_or_ne e (-1074) with rfl | hne
  · exact .inl (le_antisymm (hmost _ hle hlt) (le_max_right _ _))
  -- a float with all bits, whose lower neighbour has the next place
  have hfull : 2 ^ 52 ≤ m := hc.full.resolve_right hne
  have hpower : m = 2 ^ 52 := by
    by_contra hother
    have hm : (2 : ℚ) ^ 52 + 1 ≤ m := by exact_mod_cast Nat.lt_of_le_of_ne hfull (Ne.symm hother)
    nlinarith [hx.lower]
  have hnear := hx.narrow hpower hne
  rw [hpower] at hnear ⊢
  push_cast at hnear ⊢
  refine .inr ⟨le_antisymm (hmost _ (by omega) ?_) (hleast _ ?_), trivial, hne, hbelow⟩
  · rw [show 53 + (e - 1) = 52 + e by ring, zpow_add₀ two_ne_zero]
    exact_mod_cast hbelow
  · rw [show 52 + (e - 1) = 51 + e by ring, zpow_add₀ two_ne_zero]
    refine le_trans ?_ hnear
    gcongr
    norm_num

/-- A number is rounded to the float that it belongs to, if its mantissa has all bits of a float. -/
theorem roundWithAccuracy_eq {x : ℚ} {m : ℕ} {e : ℤ} (hc : Canonical m e) (hx : RoundsTo x m e)
    {m' : ℕ} {e' : ℤ} {accuracy : Accuracy}
    (h : Represents (.ofMantissaAndAccuracy m' accuracy) (x / 2 ^ e'))
    (he : e' ≤ Format.binary64.targetExponent (totalExponent m' e')) (s : Sign) :
    roundWithAccuracy .binary64 s m' e' accuracy = .finite s m e hc.pos := by
  obtain ⟨em, hshift, hem⟩ := exists_shiftToTargetExponent h he
  rw [← mantissa_ofMantissaAndAccuracy m' accuracy] at he
  have htarget := targetExponent_of_roundsTo hc hx h he
  rw [mantissa_ofMantissaAndAccuracy] at htarget
  rw [roundWithAccuracy, hshift]
  rcases htarget with htarget | ⟨htarget, rfl, hne, hbelow⟩
  · rw [htarget] at hem ⊢
    have hpos : (0 : ℚ) < 2 ^ e := by positivity
    have hrounded : em.roundedMantissa = m := by
      refine hem.roundedMantissa_eq ((le_div_iff₀ hpos).mpr hx.lower)
        ((div_le_iff₀ hpos).mpr hx.upper) fun hodd => ?_
      exact ⟨(lt_div_iff₀ hpos).mpr (hx.inside hodd).1, (div_lt_iff₀ hpos).mpr (hx.inside hodd).2⟩
    simp only [hrounded, hc.shiftToTargetExponent, hc.pos.ne', dif_neg, not_false_eq_true]
  · rw [htarget] at hem ⊢
    -- all bits are ones, so that the mantissa gets one bit more
    have hnear := hx.narrow rfl hne
    have hpos : (0 : ℚ) < 2 ^ (e - 1) := by positivity
    have hhalf : (2 : ℚ) ^ e = 2 * 2 ^ (e - 1) := by
      rw [← zpow_one_add₀ two_ne_zero, add_sub_cancel]
    rw [hhalf] at hnear hbelow
    have hrounded : em.roundedMantissa = 2 ^ 53 := by
      refine hem.roundedMantissa_eq ((le_div_iff₀ hpos).mpr ?_) ((div_le_iff₀ hpos).mpr ?_)
        fun hodd => by norm_num at hodd
      · push_cast at hnear ⊢
        linarith
      · push_cast at hbelow ⊢
        linarith
    have hleast : -1074 ≤ e - 1 := by
      have := hc.least
      omega
    simp only [hrounded, shiftToTargetExponent_carry hleast]
    rw [dif_neg (by norm_num)]
    congr 1
    ring

end ConfigSchema.FloatBits
