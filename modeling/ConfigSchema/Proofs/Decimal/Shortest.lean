import ConfigSchema.Decimal.Shortest
import ConfigSchema.Proofs.Float.Rounding

/-!
# The shortest decimal of a float

The shortest decimal of a float is rounded to the float. It is found on one of the first seventeen
grids of decimals, as the steps of the last one are smaller than the interval of the numbers that
are rounded to the float.

## Main definitions

- `Decimal.value`, `Binary.value` — the number that a decimal or a binary stands for
- `Binary.Near` — the numbers between the ends of the interval

## Main statements

- `Binary.search_near` — the search ends with a decimal in the interval, if there is one
- `Binary.ten_zpow_magnitude_le` — the first digit of a number has the place that is computed
- `Binary.roundsTo_shortest` — the shortest decimal of a float is rounded to the float
-/

namespace ConfigSchema

open FloatBits

/-- The number that a decimal stands for. -/
def Decimal.value (d : Decimal) : ℚ := d.digits * 10 ^ d.exponent

namespace Binary

/-- The number that a binary stands for. -/
def value (b : Binary) : ℚ := b.mantissa * 2 ^ b.exponent

/-- The number lies between the ends of the interval, or is one of them if they belong to it. -/
def Near (b : Binary) (x : ℚ) : Prop :=
  if b.closed then b.lower * 2 ^ (b.exponent - 2) ≤ x ∧ x ≤ b.upper * 2 ^ (b.exponent - 2)
  else b.lower * 2 ^ (b.exponent - 2) < x ∧ x < b.upper * 2 ^ (b.exponent - 2)

theorem powerFraction_eq {base : ℕ} (h : base ≠ 0) (e : ℤ) :
    (base : ℚ) ^ e = (powerFraction base e).1 / (powerFraction base e).2 := by
  simpa [powerFraction] using zpow_eq_div_pow (Nat.cast_ne_zero.mpr h) e

theorem powerFraction_pos {base : ℕ} (h : base ≠ 0) (e : ℤ) :
    0 < (powerFraction base e).1 ∧ 0 < (powerFraction base e).2 :=
  ⟨Nat.pow_pos (Nat.pos_of_ne_zero h), Nat.pow_pos (Nat.pos_of_ne_zero h)⟩

/-- Points of grids and ends of intervals are compared as natural numbers. -/
theorem cross_le_iff {up down tens tenths quarters point : ℕ} (hdown : 0 < down)
    (htenths : 0 < tenths) :
    ((quarters : ℚ) * (up / down) ≤ point * (tens / tenths) ↔
      quarters * up * tenths ≤ point * (down * tens)) ∧
    ((point : ℚ) * (tens / tenths) ≤ quarters * (up / down) ↔
      point * (down * tens) ≤ quarters * up * tenths) := by
  have hdown : (0 : ℚ) < down := by exact_mod_cast hdown
  have htenths : (0 : ℚ) < tenths := by exact_mod_cast htenths
  rw [← mul_div_assoc, ← mul_div_assoc, div_le_div_iff₀ hdown htenths,
    div_le_div_iff₀ htenths hdown, mul_assoc (point : ℚ), mul_comm (tens : ℚ)]
  exact ⟨by exact_mod_cast Iff.rfl, by exact_mod_cast Iff.rfl⟩

/-- A point of a grid is contained if it lies in the interval. -/
theorem contains_iff {b : Binary} {place : ℤ} {point : ℕ} :
    b.contains place point ↔ b.Near (point * 10 ^ place) := by
  have htwo := powerFraction_eq two_ne_zero (b.exponent - 2)
  have hten := powerFraction_eq (show 10 ≠ 0 by decide) place
  have hdown := (powerFraction_pos two_ne_zero (b.exponent - 2)).2
  have htenths := (powerFraction_pos (show 10 ≠ 0 by decide) place).2
  rw [contains, Near]
  push_cast at htwo hten
  rw [htwo, hten]
  generalize powerFraction 2 (b.exponent - 2) = binary at *
  generalize powerFraction 10 place = decimal at *
  obtain ⟨up, down⟩ := binary
  obtain ⟨tens, tenths⟩ := decimal
  dsimp only at *
  have hle := fun quarters : ℕ => @cross_le_iff up down tens tenths quarters point hdown htenths
  cases b.closed with
  | true =>
    rw [if_pos rfl, if_pos rfl, (hle _).1, (hle _).2]
    simp
  | false =>
    have hlow := (hle b.lower).2.not
    have hhigh := (hle b.upper).1.not
    rw [not_le, not_le] at hlow hhigh
    rw [if_neg Bool.false_ne_true, if_neg Bool.false_ne_true, hlow, hhigh]
    simp

theorem value_eq_quarters (b : Binary) : b.value = b.quarters * 2 ^ (b.exponent - 2) := by
  rw [value, quarters, zpow_sub₀ two_ne_zero]
  push_cast
  ring

/-- The point of the grid at or below the number, and the next one. -/
theorem gridPoint_bounds (b : Binary) (place : ℤ) :
    (b.gridPoint place).below * 10 ^ place ≤ b.value ∧
      b.value < ((b.gridPoint place).below + 1 : ℕ) * 10 ^ place := by
  have htwo := powerFraction_eq two_ne_zero (b.exponent - 2)
  have hten := powerFraction_eq (show 10 ≠ 0 by decide) place
  have hdown := (powerFraction_pos two_ne_zero (b.exponent - 2)).2
  obtain ⟨htens, htenths⟩ := powerFraction_pos (show 10 ≠ 0 by decide) place
  push_cast at htwo hten
  rw [value_eq_quarters, gridPoint, htwo, hten]
  generalize powerFraction 2 (b.exponent - 2) = binary at *
  generalize powerFraction 10 place = decimal at *
  obtain ⟨up, down⟩ := binary
  obtain ⟨tens, tenths⟩ := decimal
  dsimp only at *
  have hden : 0 < down * tens := Nat.mul_pos hdown htens
  refine ⟨(cross_le_iff hdown htenths).2.mpr (Nat.div_mul_le_self _ _), not_le.mp ?_⟩
  rw [(cross_le_iff hdown htenths).2, not_le]
  exact (Nat.div_lt_iff_lt_mul hden).mp (Nat.lt_succ_self _)

/-! ## The search -/

theorem near_of_between {b : Binary} {x : ℚ} (hlow : b.lower * 2 ^ (b.exponent - 2) < x)
    (hhigh : x < b.upper * 2 ^ (b.exponent - 2)) : b.Near x := by
  rw [Near]
  split
  · exact ⟨hlow.le, hhigh.le⟩
  · exact ⟨hlow, hhigh⟩

/-- The number lies between the ends of its interval. -/
theorem between_value {b : Binary} (hpos : 0 < b.mantissa) :
    b.lower * 2 ^ (b.exponent - 2) < b.value ∧ b.value < b.upper * 2 ^ (b.exponent - 2) := by
  have hunit : (0 : ℚ) < 2 ^ (b.exponent - 2) := by positivity
  rw [value_eq_quarters]
  have hlow : b.lower < b.quarters := by
    rw [lower, quarters]
    split <;> omega
  have hhigh : b.quarters < b.upper := by
    rw [upper]
    omega
  exact ⟨by gcongr, by gcongr⟩

/-- A point that is found is contained, and none is found only if neither of the two neighbours of
the number is contained. -/
theorem onGrid?_cases (tie : Tie) (b : Binary) (place : ℤ) :
    (∃ point, b.onGrid? tie place = some point ∧ b.contains place point) ∨
      (b.onGrid? tie place = none ∧ b.contains place (b.gridPoint place).below = false ∧
        b.contains place ((b.gridPoint place).below + 1) = false) := by
  unfold onGrid?
  generalize b.gridPoint place = g
  dsimp only
  cases hbelow : b.contains place g.below <;> cases habove : b.contains place (g.below + 1)
  · exact .inr ⟨rfl, rfl, rfl⟩
  · exact .inl ⟨_, rfl, habove⟩
  · exact .inl ⟨_, rfl, hbelow⟩
  · -- both are contained, so it does not matter which one is chosen
    left
    dsimp only
    split
    · exact ⟨_, rfl, hbelow⟩
    · split
      · exact ⟨_, rfl, habove⟩
      · cases tie with
        | up => exact ⟨_, rfl, habove⟩
        | even =>
          refine ⟨_, rfl, ?_⟩
          split
          · exact hbelow
          · exact habove

/-- A point that is found lies in the interval. -/
theorem near_of_onGrid? {tie : Tie} {b : Binary} {place : ℤ} {point : ℕ}
    (h : b.onGrid? tie place = some point) : b.Near (point * 10 ^ place) := by
  rw [← contains_iff]
  rcases b.onGrid?_cases tie place with ⟨other, hother, hcontains⟩ | ⟨hnone, -, -⟩
  · rwa [Option.some.inj (h.symm.trans hother)]
  · cases hnone.symm.trans h

/-- A point is found if the steps of the grid are smaller than the interval. -/
theorem isSome_onGrid? (tie : Tie) {b : Binary} {place : ℤ} (hpos : 0 < b.mantissa)
    (h : 10 ^ place < (b.upper - b.lower : ℚ) * 2 ^ (b.exponent - 2)) :
    (b.onGrid? tie place).isSome := by
  rcases b.onGrid?_cases tie place with ⟨point, hpoint, -⟩ | ⟨-, hbelow, habove⟩
  · rw [hpoint]
    rfl
  · -- the interval lies between two neighbours
    rw [← Bool.not_eq_true, contains_iff] at hbelow habove
    obtain ⟨hle, hlt⟩ := b.gridPoint_bounds place
    obtain ⟨hlow, hhigh⟩ := between_value hpos
    have hleft : ((b.gridPoint place).below : ℚ) * 10 ^ place ≤ b.lower * 2 ^ (b.exponent - 2) :=
      not_lt.mp fun hlt => hbelow (near_of_between hlt (hle.trans_lt hhigh))
    have hright : b.upper * 2 ^ (b.exponent - 2) ≤
        (((b.gridPoint place).below + 1 : ℕ) : ℚ) * 10 ^ place :=
      not_lt.mp fun hgt => habove (near_of_between (hlow.trans hlt) hgt)
    push_cast at hright
    linarith

/-- The search ends with a decimal in the interval, if there is one on one of the grids. -/
theorem search_near {tie : Tie} {b : Binary} {fuel : ℕ} {place : ℤ} {k : ℕ} (hk : k < fuel)
    (h : (b.onGrid? tie (place - k)).isSome) : b.Near (b.search tie fuel place).value := by
  induction fuel generalizing place k with
  | zero => cases hk
  | succ fuel ih =>
    rw [search]
    cases hpoint : b.onGrid? tie place with
    | some digits => exact near_of_onGrid? hpoint
    | none =>
      cases k with
      | zero =>
        rw [Nat.cast_zero, sub_zero, hpoint] at h
        cases h
      | succ k =>
        refine ih (Nat.lt_of_succ_lt_succ hk) ?_
        rwa [show place - 1 - (k : ℤ) = place - (k + 1 : ℕ) by push_cast; ring]

/-! ## The place of the first digit -/

theorem le_greatestPower {num den fuel p : ℕ} (h : den ≤ num * 10 ^ (p + fuel + 1)) :
    den ≤ num * 10 ^ (greatestPower num den fuel p + 1) := by
  induction fuel generalizing p with
  | zero => exact h
  | succ fuel ih =>
    rw [greatestPower]
    split
    · exact ih (by rwa [Nat.add_right_comm p 1 fuel])
    · rename_i hstop
      exact not_lt.mp hstop

theorem leastPower_le {num den fuel p : ℕ} (h : p = 0 ∨ den * 10 ^ (p - 1) ≤ num) :
    leastPower num den fuel p = 0 ∨ den * 10 ^ (leastPower num den fuel p - 1) ≤ num := by
  induction fuel generalizing p with
  | zero => exact h
  | succ fuel ih =>
    rw [leastPower]
    split
    · exact h
    · rename_i hstop
      exact ih (.inr (not_lt.mp hstop))

theorem two_pow_le_ten_pow {m n : ℕ} (h : m ≤ 3 * n) : 2 ^ m ≤ 10 ^ n :=
  calc 2 ^ m ≤ 2 ^ (3 * n) := Nat.pow_le_pow_right two_pos h
    _ = 8 ^ n := pow_mul 2 3 n
    _ ≤ 10 ^ n := Nat.pow_le_pow_left (by decide) n

/-- The first digit of a number has the place that is computed, or one above. -/
theorem ten_zpow_magnitude_le {b : Binary} (hpos : 0 < b.mantissa) (he : -1074 ≤ b.exponent) :
    10 ^ (b.magnitude - 1) ≤ b.value := by
  have htwo := powerFraction_eq two_ne_zero (b.exponent - 2)
  obtain ⟨hup, hdown⟩ := powerFraction_pos two_ne_zero (b.exponent - 2)
  have hsmall : (powerFraction 2 (b.exponent - 2)).2 ≤ 10 ^ (0 + 400 + 1) := by
    have hexponent : (-(b.exponent - 2)).toNat ≤ 3 * (0 + 400 + 1) := by omega
    exact two_pow_le_ten_pow hexponent
  push_cast at htwo
  rw [value_eq_quarters, magnitude, htwo]
  generalize powerFraction 2 (b.exponent - 2) = binary at *
  obtain ⟨up, down⟩ := binary
  dsimp only at *
  have hdown' : (0 : ℚ) < down := by exact_mod_cast hdown
  have hnum : 0 < b.quarters * up := Nat.mul_pos (by rw [quarters]; omega) hup
  rw [← mul_div_assoc, le_div_iff₀ hdown']
  split
  · have hstop : down ≤ b.quarters * up * 10 ^ (greatestPower (b.quarters * up) down 400 0 + 1) :=
      le_greatestPower (hsmall.trans (Nat.le_mul_of_pos_left _ hnum))
    generalize greatestPower (b.quarters * up) down 400 0 = p at *
    rw [show (-(p : ℤ) - 1) = -((p + 1 : ℕ) : ℤ) by push_cast; ring, zpow_neg, zpow_natCast,
      inv_mul_le_iff₀ (by positivity), mul_comm]
    exact_mod_cast hstop
  · rename_i hlarge
    have hstop := @leastPower_le (b.quarters * up) down 400 0 (.inl rfl)
    generalize leastPower (b.quarters * up) down 400 0 = p at *
    cases p with
    | zero =>
      have hle : (down : ℚ) ≤ b.quarters * up := by exact_mod_cast not_lt.mp hlarge
      norm_num
      linarith
    | succ p =>
      have hstop := hstop.resolve_left (Nat.succ_ne_zero p)
      rw [Nat.cast_succ, add_sub_cancel_right, zpow_natCast, mul_comm]
      exact_mod_cast hstop

/-! ## The shortest decimal -/

@[simp] theorem value_dropZeros (fuel : ℕ) (d : Decimal) : (dropZeros fuel d).value = d.value := by
  induction fuel generalizing d with
  | zero => rfl
  | succ fuel ih =>
    rw [dropZeros]
    split
    · rename_i hzero
      rw [ih, Decimal.value, Decimal.value, zpow_add_one₀ (by norm_num)]
      have hten : d.digits / 10 * 10 = d.digits := by
        simp only [Bool.and_eq_true, beq_iff_eq] at hzero
        omega
      have hcast : ((d.digits / 10 : ℕ) : ℚ) * 10 = d.digits := by exact_mod_cast hten
      rw [← hcast]
      ring
    · rfl

/-- The ends of the interval, in last bits. -/
theorem ends_eq {b : Binary} (hpos : 0 < b.mantissa) :
    b.lower * (2 : ℚ) ^ (b.exponent - 2) =
        (b.mantissa - if b.narrowBelow then 1 / 4 else 1 / 2) * 2 ^ b.exponent ∧
      b.upper * (2 : ℚ) ^ (b.exponent - 2) = (b.mantissa + 1 / 2) * 2 ^ b.exponent := by
  have hlower : (b.lower : ℚ) = 4 * b.mantissa - if b.narrowBelow then 1 else 2 := by
    rw [lower, quarters, Nat.cast_sub (by split <;> omega)]
    push_cast
    rfl
  have hupper : (b.upper : ℚ) = 4 * b.mantissa + 2 := by
    rw [upper, quarters]
    push_cast
    rfl
  rw [zpow_sub₀ two_ne_zero, hlower, hupper]
  constructor
  · split <;> ring
  · ring

/-- What lies in the interval of a float is rounded to the float. -/
theorem Near.roundsTo {b : Binary} {x : ℚ} (h : b.Near x) (hpos : 0 < b.mantissa)
    (hnarrow : b.narrowBelow ↔ b.mantissa = 2 ^ 52 ∧ b.exponent ≠ -1074) :
    RoundsTo x b.mantissa b.exponent := by
  have hunit : (0 : ℚ) < 2 ^ b.exponent := by positivity
  rw [Near, (ends_eq hpos).1, (ends_eq hpos).2] at h
  have hends : (b.mantissa - if b.narrowBelow then 1 / 4 else 1 / 2) * (2 : ℚ) ^ b.exponent ≤ x ∧
      x ≤ (b.mantissa + 1 / 2) * (2 : ℚ) ^ b.exponent := by
    split at h
    · exact h
    · exact ⟨h.1.le, h.2.le⟩
  refine ⟨?_, hends.2, fun hodd => ?_, fun hpower hexponent => ?_⟩
  · refine le_trans ?_ hends.1
    gcongr
    split <;> norm_num
  · have hopen : b.closed = false := by simp [closed, hodd]
    have hwide : b.narrowBelow = false := by
      rw [← Bool.not_eq_true, hnarrow]
      rintro ⟨hpower, -⟩
      rw [hpower] at hodd
      norm_num at hodd
    rwa [hopen, hwide, if_neg Bool.false_ne_true, if_neg Bool.false_ne_true] at h
  · rw [if_pos (hnarrow.mpr ⟨hpower, hexponent⟩)] at hends
    exact hends.1

/-- The shortest decimal of a float is rounded to the float. -/
theorem roundsTo_shortest (tie : Tie) {b : Binary} (hc : Canonical b.mantissa b.exponent)
    (hnarrow : b.narrowBelow ↔ b.mantissa = 2 ^ 52 ∧ b.exponent ≠ -1074) :
    RoundsTo (b.shortest tie).value b.mantissa b.exponent := by
  rw [shortest, value_dropZeros]
  refine Near.roundsTo (search_near (show 16 < 17 by decide) (isSome_onGrid? tie hc.pos ?_))
    hc.pos hnarrow
  -- a step of the seventeenth grid is smaller than the interval
  have hunit : (0 : ℚ) < 2 ^ b.exponent := by positivity
  have hlt : (b.mantissa : ℚ) < 2 ^ 53 := by exact_mod_cast hc.lt
  rw [sub_mul, (ends_eq hc.pos).1, (ends_eq hc.pos).2, ← sub_mul]
  calc (10 : ℚ) ^ (b.magnitude - 1 - (16 : ℕ)) = 10 ^ (b.magnitude - 1) / 10 ^ 16 := by
        rw [zpow_sub₀ (by norm_num), zpow_natCast]
    _ ≤ b.value / 10 ^ 16 := by
        gcongr
        exact ten_zpow_magnitude_le hc.pos hc.least
    _ = b.mantissa / 10 ^ 16 * 2 ^ b.exponent := by
        rw [value]
        ring
    _ < _ := by
        gcongr
        split
        · rename_i hbelow
          have hpower : (b.mantissa : ℚ) = 2 ^ 52 := by exact_mod_cast (hnarrow.mp hbelow).1
          rw [hpower]
          norm_num
        · have hone : (b.mantissa : ℚ) / 10 ^ 16 < 1 := by
            rw [div_lt_one (by positivity)]
            exact hlt.trans (by norm_num)
          linarith

end Binary

end ConfigSchema
