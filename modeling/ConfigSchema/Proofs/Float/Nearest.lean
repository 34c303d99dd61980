import ConfigSchema.Proofs.Float.ReadBack

/-!
# Floats as rational numbers

A finite float denotes a rational number, and finite floats compare like these numbers. An integer
becomes the float that it is rounded to: no float lies strictly between the two. So integers are
never brought into the wrong order, but those with more than 53 bits can become equal.

## Main definitions

- `number?` — the number that a finite float denotes
- `nearest` — the number that an integer is rounded to

## Main statements

- `lt_iff`, `beq_iff` — finite floats compare like the numbers that they denote
- `nearest_le_iff`, `le_nearest_iff` — rounding an integer changes how it compares to a float only
  where it becomes this float
- `nearest_eq_self`, `nearest_eq_nearest_iff` — integers of at most 53 bits are not changed, and no
  others are rounded to them
-/

namespace ConfigSchema

open FloatBits Float.Model Float.Model.UnpackedFloat

namespace FloatBits

/-! ## The order of floats -/

section

variable {m m' : ℕ} {e e' : ℤ} {x : ℚ}

/-- Above a float comes the next multiple of its last place, or more. -/
theorem Canonical.succ_le (hc : Canonical m e) (hc' : Canonical m' e')
    (h : e < e' ∨ e = e' ∧ m < m') : ((m : ℚ) + 1) * 2 ^ e ≤ m' * 2 ^ e' := by
  rcases h with hlt | ⟨rfl, hlt⟩
  · have hleast := hc.least
    have hfull : 2 ^ 52 ≤ m' := hc'.full.resolve_right (by omega)
    have hm : (m : ℚ) + 1 ≤ 2 ^ 53 := by exact_mod_cast hc.lt
    calc ((m : ℚ) + 1) * 2 ^ e ≤ 2 ^ 53 * 2 ^ e := by gcongr
      _ = 2 ^ 52 * 2 ^ (e + 1) := by rw [zpow_add_one₀ two_ne_zero]; ring
      _ ≤ m' * 2 ^ e' := by
        gcongr
        · exact_mod_cast hfull
        · norm_num
        · omega
  · gcongr
    exact_mod_cast hlt

/-- Floats are ordered by their exponents, and those with one exponent by their mantissas. -/
theorem Canonical.lt_of_lex (hc : Canonical m e) (hc' : Canonical m' e')
    (h : e < e' ∨ e = e' ∧ m < m') : (m : ℚ) * 2 ^ e < m' * 2 ^ e' :=
  (mul_lt_mul_of_pos_right (lt_add_one _) (by positivity)).trans_le (hc.succ_le hc' h)

theorem Canonical.lex_of_lt (hc : Canonical m e) (hc' : Canonical m' e')
    (h : (m : ℚ) * 2 ^ e < m' * 2 ^ e') : e < e' ∨ e = e' ∧ m < m' := by
  by_contra hlex
  have hback : (e' < e ∨ e' = e ∧ m' < m) ∨ e' = e ∧ m' = m := by omega
  rcases hback with hback | ⟨rfl, rfl⟩
  · exact lt_asymm h (hc'.lt_of_lex hc hback)
  · exact lt_irrefl _ h

theorem compare_lex (hc : Canonical m e) (hc' : Canonical m' e') :
    (compare e e').then (compare m m') = compare ((m : ℚ) * 2 ^ e) (m' * 2 ^ e') := by
  rcases lt_trichotomy e e' with hlt | rfl | hgt
  · rw [compare_lt_iff_lt.mpr hlt, compare_lt_iff_lt.mpr (hc.lt_of_lex hc' (.inl hlt))]
    rfl
  · rcases lt_trichotomy m m' with hlt | rfl | hgt
    · rw [compare_eq_iff_eq.mpr rfl, compare_lt_iff_lt.mpr hlt,
        compare_lt_iff_lt.mpr (hc.lt_of_lex hc' (.inr ⟨rfl, hlt⟩))]
      rfl
    · simp
    · rw [compare_eq_iff_eq.mpr rfl, compare_gt_iff_gt.mpr hgt,
        compare_gt_iff_gt.mpr (hc'.lt_of_lex hc (.inr ⟨rfl, hgt⟩))]
      rfl
  · rw [compare_gt_iff_gt.mpr hgt, compare_gt_iff_gt.mpr (hc'.lt_of_lex hc (.inl hgt))]
    rfl

/-! ## Rounding keeps the order -/

/-- A number is not rounded to a float beyond one that is not below it. -/
theorem RoundsTo.le (hx : RoundsTo x m e) (hc : Canonical m e) (hc' : Canonical m' e')
    (h : x ≤ m' * 2 ^ e') : (m : ℚ) * 2 ^ e ≤ m' * 2 ^ e' := by
  by_contra hbeyond
  have hpos : (0 : ℚ) < 2 ^ e := by positivity
  have hlower := hx.lower
  rcases hc'.lex_of_lt hc (not_le.mp hbeyond) with hlt | ⟨rfl, hlt⟩
  · have hleast := hc'.least
    have hfull : 2 ^ 52 ≤ m := hc.full.resolve_right (by omega)
    -- all bits of the float are ones, or it is not even as far as the last power of two
    have hhalf : (m' : ℚ) * 2 ^ e' ≤ (2 ^ 52 - 1 / 2) * 2 ^ e := by
      have hm : (m' : ℚ) ≤ 2 ^ 53 - 1 := by
        have hlast : (m' : ℚ) + 1 ≤ 2 ^ 53 := by exact_mod_cast hc'.lt
        linarith
      have hplace : (2 : ℚ) ^ e' ≤ 2 ^ (e - 1) := zpow_le_zpow_right₀ one_le_two (by omega)
      calc (m' : ℚ) * 2 ^ e' ≤ (2 ^ 53 - 1) * 2 ^ (e - 1) := by
            refine mul_le_mul hm hplace (by positivity) (by norm_num)
        _ = (2 ^ 52 - 1 / 2) * 2 ^ e := by rw [zpow_sub_one₀ two_ne_zero]; ring
    rcases Nat.eq_or_lt_of_le hfull with hpower | hmore
    · have hnarrow := hx.narrow hpower.symm (by omega)
      rw [← hpower] at hnarrow
      push_cast at hnarrow
      linarith
    · have hm : (2 : ℚ) ^ 52 + 1 ≤ m := by exact_mod_cast hmore
      nlinarith
  · have hm : (m' : ℚ) + 1 ≤ m := by exact_mod_cast hlt
    nlinarith

/-- A number is not rounded to a float before one that is not above it. -/
theorem RoundsTo.ge (hx : RoundsTo x m e) (hc : Canonical m e) (hc' : Canonical m' e')
    (h : m' * 2 ^ e' ≤ x) : (m' : ℚ) * 2 ^ e' ≤ m * 2 ^ e := by
  by_contra hbefore
  have hpos : (0 : ℚ) < 2 ^ e := by positivity
  have hnext := hc.succ_le hc' (hc.lex_of_lt hc' (not_le.mp hbefore))
  have hupper := hx.upper
  nlinarith

/-- With one bit too many a power of two has a zero at its end. -/
theorem RoundsTo.carry (hx : RoundsTo x (2 ^ 53) e) : RoundsTo x (2 ^ 52) (e + 1) := by
  have hpos : (0 : ℚ) < 2 ^ e := by positivity
  have hlower := hx.lower
  have hupper := hx.upper
  push_cast at hlower hupper
  refine ⟨?_, ?_, fun hodd => by norm_num at hodd, fun _ _ => ?_⟩ <;>
    rw [zpow_add_one₀ two_ne_zero] <;> push_cast <;> nlinarith

/-- A fraction is rounded to the nearest integer, and from the middle to the even one. -/
theorem exists_roundsTo_of_full {n count : ℕ} (hlow : 2 ^ 52 * 2 ^ count ≤ n)
    (hhigh : n < 2 ^ 53 * 2 ^ count) :
    ∃ m : ℕ, 2 ^ 52 ≤ m ∧ m ≤ 2 ^ 53 ∧ RoundsTo n m count := by
  set d := 2 ^ count with hd
  have hdpos : 0 < d := by positivity
  have hleast : 2 ^ 52 ≤ n / d := (Nat.le_div_iff_mul_le hdpos).mpr hlow
  have hmost : n / d < 2 ^ 53 := (Nat.div_lt_iff_lt_mul hdpos).mpr hhigh
  have hrest : n % d < d := Nat.mod_lt n hdpos
  have hsplit : (n : ℚ) = (n / d : ℕ) * d + (n % d : ℕ) := by
    exact_mod_cast (Nat.div_add_mod' n d).symm
  have hplace : (2 : ℚ) ^ (count : ℤ) = d := by
    rw [hd]
    push_cast
    rfl
  generalize n / d = q at *
  generalize n % d = r at *
  by_cases hdown : 2 * r < d ∨ 2 * r = d ∧ q % 2 = 0
  · have hr : 2 * (r : ℚ) ≤ d := by exact_mod_cast (by omega : 2 * r ≤ d)
    have hr0 : (0 : ℚ) ≤ r := r.cast_nonneg
    refine ⟨q, hleast, hmost.le, ⟨?_, ?_, fun hodd => ?_, fun _ _ => ?_⟩⟩ <;>
      rw [hplace, hsplit]
    · nlinarith
    · nlinarith
    · have hstrict : 2 * (r : ℚ) < d := by exact_mod_cast (by omega : 2 * r < d)
      exact ⟨by nlinarith, by nlinarith⟩
    · nlinarith
  · have hr : (d : ℚ) ≤ 2 * r := by exact_mod_cast (by omega : d ≤ 2 * r)
    have hr' : (r : ℚ) < d := by exact_mod_cast hrest
    refine ⟨q + 1, by omega, hmost, ⟨?_, ?_, fun hodd => ?_, fun hpower _ => by omega⟩⟩ <;>
      rw [hplace, hsplit] <;> push_cast
    · nlinarith
    · nlinarith
    · have hstrict : (d : ℚ) < 2 * r := by exact_mod_cast (by omega : d < 2 * r)
      exact ⟨by nlinarith, by nlinarith⟩

/-- Every positive integer is rounded to some float. -/
theorem exists_roundsTo {n : ℕ} (hn : n ≠ 0) :
    ∃ m e, Canonical m e ∧ e ≤ n.log2 ∧ RoundsTo n m e := by
  by_cases hsmall : n < 2 ^ 53
  · obtain ⟨m, e, hc, he, -, hvalue⟩ := exists_canonical hn hsmall
    exact ⟨m, e, hc, by omega, hvalue ▸ .self m e⟩
  · obtain ⟨count, hcount⟩ := Nat.exists_eq_add_of_le ((Nat.le_log2 hn).mpr (not_lt.mp hsmall))
    have hlow : 2 ^ 52 * 2 ^ (count + 1) ≤ n := by
      rw [← pow_add, show 52 + (count + 1) = n.log2 by omega]
      exact Nat.log2_self_le hn
    have hhigh : n < 2 ^ 53 * 2 ^ (count + 1) := by
      rw [← pow_add, show 53 + (count + 1) = n.log2 + 1 by omega]
      exact Nat.lt_log2_self
    obtain ⟨m, hfull, hmost, hx⟩ := exists_roundsTo_of_full hlow hhigh
    by_cases hm : m = 2 ^ 53
    · -- the mantissa has one bit too many
      rw [hm] at hx
      exact ⟨2 ^ 52, _, ⟨by norm_num, by norm_num, by omega, .inl le_rfl⟩, by omega, hx.carry⟩
    · exact ⟨m, _, ⟨by omega, by omega, by omega, .inl hfull⟩, by omega, hx⟩

/-- An integer of at most 53 bits is rounded to itself. -/
theorem RoundsTo.eq_self {n : ℕ} (hx : RoundsTo n m e) (hc : Canonical m e) (hn : n ≠ 0)
    (h : n ≤ 2 ^ 53) : (m : ℚ) * 2 ^ e = n := by
  obtain ⟨m', e', hc', hvalue⟩ : ∃ m' e', Canonical m' e' ∧ (m' * 2 ^ e' : ℚ) = n := by
    by_cases hlt : n < 2 ^ 53
    · obtain ⟨m', e', hc', -, -, hvalue⟩ := exists_canonical hn hlt
      exact ⟨m', e', hc', hvalue⟩
    · refine ⟨2 ^ 52, 1, ⟨by norm_num, by norm_num, by norm_num, .inl le_rfl⟩, ?_⟩
      rw [le_antisymm h (not_lt.mp hlt)]
      norm_num
  rw [← hvalue] at hx ⊢
  exact le_antisymm (hx.le hc hc' le_rfl) (hx.ge hc hc' le_rfl)

end

/-! ## Numbers with a sign -/

/-- A number with a sign. -/
def signed : Sign → ℚ → ℚ
  | .positive, x => x
  | .negative, x => -x

/-- The number that is denoted, if it is finite. -/
def number? : UnpackedFloat → Option ℚ
  | .zero _ => some 0
  | .finite s m e _ => some (signed s (m * 2 ^ e))
  | .infinity _ | .notANumber => none

end FloatBits

/-- The number that a finite float denotes. -/
def number? (x : Float) : Option ℚ := FloatBits.number? x.toModel.unpack

/-- A finite float is zero, or has a mantissa and an exponent. -/
inductive Denotation (x : Float) : ℚ → Prop
  | zero {s : Sign} (h : x.toModel.unpack = .zero s) : Denotation x 0
  | finite {s : Sign} {m : ℕ} {e : ℤ} (hc : Canonical m e)
      (h : x.toModel.unpack = .finite s m e hc.pos) : Denotation x (signed s (m * 2 ^ e))

theorem Denotation.of_number? {x : Float} {p : ℚ} (h : number? x = some p) : Denotation x p := by
  rw [number?] at h
  have hparts := partsOf x
  generalize FloatParts.ofFloat x = parts at hparts
  cases hparts with
  | notANumber hunpack =>
    rw [hunpack] at h
    cases h
  | infinite negative hunpack =>
    rw [hunpack] at h
    cases h
  | zero negative hunpack =>
    rw [hunpack] at h
    obtain rfl := Option.some.inj h
    exact .zero hunpack
  | finite negative hc _ _ hunpack =>
    rw [hunpack] at h
    obtain rfl := Option.some.inj h
    exact .finite hc hunpack

/-- Numbers compare the other way round when their signs are changed. -/
theorem compare_neg_neg (a b : ℚ) : compare (-a) (-b) = (compare a b).swap := by
  rcases lt_trichotomy a b with hlt | rfl | hgt
  · rw [compare_lt_iff_lt.mpr hlt, compare_gt_iff_gt.mpr (neg_lt_neg hlt)]
    rfl
  · simp
  · rw [compare_gt_iff_gt.mpr hgt, compare_lt_iff_lt.mpr (neg_lt_neg hgt)]
    rfl

/-- Finite floats compare like the numbers that they denote. -/
theorem compare_unpack {x y : Float} {p q : ℚ} (hp : number? x = some p)
    (hq : number? y = some q) :
    x.toModel.unpack.compare y.toModel.unpack = some (compare p q) := by
  have hpositive : ∀ {m : ℕ} {e : ℤ}, Canonical m e → (0 : ℚ) < m * 2 ^ e := fun hc =>
    mul_pos (by exact_mod_cast hc.pos) (by positivity)
  cases Denotation.of_number? hp with
  | zero hx =>
    cases Denotation.of_number? hq with
    | zero hy => rw [hx, hy, compare_eq_iff_eq.mpr rfl, UnpackedFloat.compare]
    | @finite s m e hc hy =>
      have hpos := hpositive hc
      rw [hx, hy]
      cases s with
      | positive => rw [signed, compare_lt_iff_lt.mpr hpos, UnpackedFloat.compare]
      | negative => rw [signed, compare_gt_iff_gt.mpr (neg_neg_of_pos hpos), UnpackedFloat.compare]
  | @finite s m e hc hx =>
    have hpos := hpositive hc
    cases Denotation.of_number? hq with
    | zero hy =>
      rw [hx, hy]
      cases s with
      | positive => rw [signed, compare_gt_iff_gt.mpr hpos, UnpackedFloat.compare]
      | negative => rw [signed, compare_lt_iff_lt.mpr (neg_neg_of_pos hpos), UnpackedFloat.compare]
    | @finite t n f hd hy =>
      have hpos' := hpositive hd
      rw [hx, hy]
      cases s with
      | positive =>
        cases t with
        | positive => rw [signed, signed, UnpackedFloat.compare, compare_lex hc hd]
        | negative =>
          rw [signed, signed, UnpackedFloat.compare, compare_gt_iff_gt.mpr (by linarith)]
      | negative =>
        cases t with
        | positive =>
          rw [signed, signed, UnpackedFloat.compare, compare_lt_iff_lt.mpr (by linarith)]
        | negative =>
          rw [signed, signed, UnpackedFloat.compare, compare_lex hc hd, compare_neg_neg]

section

variable {x y : Float} {p q : ℚ}

theorem lt_iff (hp : number? x = some p) (hq : number? y = some q) : x < y ↔ p < q := by
  show decide ((x.toModel.unpack.compare y.toModel.unpack == some .lt) = true) = true ↔ p < q
  rw [decide_eq_true_iff, compare_unpack hp hq, beq_iff_eq, Option.some.injEq, compare_lt_iff_lt]

theorem beq_iff (hp : number? x = some p) (hq : number? y = some q) : x == y ↔ p = q := by
  show (x.toModel.unpack.compare y.toModel.unpack == some .eq) = true ↔ p = q
  rw [compare_unpack hp hq, beq_iff_eq, Option.some.injEq, compare_eq_iff_eq]

/-- A float that denotes a number is one. -/
theorem isNaN_eq_false (hp : number? x = some p) : x.isNaN = false := by
  show x.toModel.unpack.isNaN = false
  rw [number?] at hp
  cases hx : x.toModel.unpack with
  | notANumber =>
    rw [hx] at hp
    cases hp
  | _ => rfl

end

/-! ## Integers as floats -/

/-- The number that an integer is rounded to. -/
def nearest (n : ℤ) : ℚ := (number? (.ofInt n)).getD 0

/-- The integers that are floats with an exponent in the range. -/
theorem unpack_ofInt {n : ℤ} (hn : n ≠ 0) (hsize : n.natAbs < 2 ^ 64) :
    ∃ s m e, ∃ hc : Canonical m e, (Float.ofInt n).toModel.unpack = .finite s m e hc.pos ∧
      RoundsTo n.natAbs m e ∧ (n : ℚ) = signed s n.natAbs := by
  have hnatAbs : n.natAbs ≠ 0 := Int.natAbs_ne_zero.mpr hn
  obtain ⟨m, e, hc, he, hx⟩ := exists_roundsTo hnatAbs
  have hlog : n.natAbs.log2 < 64 := (Nat.log2_lt hnatAbs).mpr hsize
  have hexponent : e ≤ 971 := by omega
  have hmagnitude : Float.ofNat n.natAbs = positive m e hc.pos :=
    ofScientific_eq hc hexponent (by simpa using hx)
  cases n with
  | ofNat n =>
    refine ⟨.positive, m, e, hc, ?_, hx, by simp [signed]⟩
    show (Float.ofNat n).toModel.unpack = _
    rw [← unpack_positive hc hexponent, ← hmagnitude]
    rfl
  | negSucc n =>
    refine ⟨.negative, m, e, hc, ?_, hx, by simp [signed, Int.cast_negSucc]⟩
    show UnpackedFloat.unpack .binary64 (UnpackedFloat.pack .binary64
      (Float.ofNat (n + 1)).toModel.unpack.neg) = _
    rw [show n + 1 = (Int.negSucc n).natAbs from rfl, hmagnitude, unpack_positive hc hexponent]
    exact unpack_pack_finite hc hexponent .negative

section

variable {n : ℤ}

theorem nearest_zero : nearest 0 = 0 := rfl

/-- An integer is rounded to a finite float. -/
theorem number?_ofInt (hsize : n.natAbs < 2 ^ 64) : number? (.ofInt n) = some (nearest n) := by
  by_cases hn : n = 0
  · subst hn
    rfl
  · obtain ⟨s, m, e, hc, hunpack, -, -⟩ := unpack_ofInt hn hsize
    rw [nearest, number?, hunpack]
    rfl

/-- No float lies strictly between an integer and the number that it is rounded to. -/
theorem nearest_between (hsize : n.natAbs < 2 ^ 64) {y : Float} {q : ℚ} (hq : number? y = some q) :
    (n ≤ q → nearest n ≤ q) ∧ (q ≤ n → q ≤ nearest n) := by
  by_cases hn : n = 0
  · subst hn
    simp [nearest_zero]
  · obtain ⟨s, m, e, hc, hunpack, hx, hvalue⟩ := unpack_ofInt hn hsize
    have hnearest : nearest n = signed s (m * 2 ^ e) := by
      rw [nearest, number?, hunpack]
      rfl
    have habs : (0 : ℚ) < n.natAbs := by exact_mod_cast Int.natAbs_pos.mpr hn
    have hpos : (0 : ℚ) < m * 2 ^ e := mul_pos (by exact_mod_cast hc.pos) (by positivity)
    rw [hnearest, hvalue]
    cases Denotation.of_number? hq with
    | zero hy =>
      cases s with
      | positive => exact ⟨fun h => absurd h (not_le.mpr habs), fun _ => hpos.le⟩
      | negative =>
        exact ⟨fun _ => neg_nonpos.mpr hpos.le,
          fun h => absurd h (not_le.mpr (neg_neg_of_pos habs))⟩
    | @finite t m' e' hc' hy =>
      have hpos' : (0 : ℚ) < m' * 2 ^ e' := mul_pos (by exact_mod_cast hc'.pos) (by positivity)
      cases s with
      | positive =>
        cases t with
        | positive => exact ⟨hx.le hc hc', hx.ge hc hc'⟩
        | negative =>
          simp only [signed]
          exact ⟨fun h => absurd h (by linarith), fun _ => by linarith⟩
      | negative =>
        cases t with
        | positive =>
          simp only [signed]
          exact ⟨fun _ => by linarith, fun h => absurd h (by linarith)⟩
        | negative =>
          simp only [signed, neg_le_neg_iff]
          exact ⟨hx.ge hc hc', hx.le hc hc'⟩

/-- Rounding brings an integer below a float that it is above of only by making it this float. -/
theorem nearest_le_iff (hsize : n.natAbs < 2 ^ 64) {y : Float} {q : ℚ} (hq : number? y = some q) :
    nearest n ≤ q ↔ n ≤ q ∨ nearest n = q := by
  obtain ⟨hbelow, habove⟩ := nearest_between hsize hq
  constructor
  · intro h
    by_cases hn : n ≤ q
    · exact .inl hn
    · exact .inr (le_antisymm h (habove (not_le.mp hn).le))
  · rintro (h | h)
    · exact hbelow h
    · exact h.le

theorem le_nearest_iff (hsize : n.natAbs < 2 ^ 64) {y : Float} {q : ℚ} (hq : number? y = some q) :
    q ≤ nearest n ↔ q ≤ n ∨ nearest n = q := by
  obtain ⟨hbelow, habove⟩ := nearest_between hsize hq
  constructor
  · intro h
    by_cases hn : q ≤ n
    · exact .inl hn
    · exact .inr (le_antisymm (hbelow (not_le.mp hn).le) h)
  · rintro (h | h)
    · exact habove h
    · exact h.ge

/-- An integer of at most 53 bits is not changed. -/
theorem nearest_eq_self (h : n.natAbs ≤ 2 ^ 53) : nearest n = n := by
  by_cases hn : n = 0
  · subst hn
    rfl
  · obtain ⟨s, m, e, hc, hunpack, hx, hvalue⟩ := unpack_ofInt hn (by omega)
    rw [nearest, number?, hunpack, hvalue, ← hx.eq_self hc (Int.natAbs_ne_zero.mpr hn) h]
    rfl

/-- No other integer is rounded to one of less than 53 bits. -/
theorem nearest_eq_nearest_iff (h : n.natAbs < 2 ^ 53) {c : ℤ} (hc : c.natAbs < 2 ^ 64) :
    nearest c = nearest n ↔ c = n := by
  refine ⟨fun heq => ?_, congrArg nearest⟩
  rw [nearest_eq_self h.le] at heq
  -- the integers next to `n` are floats, so that an integer beyond them is not rounded to `n`
  have hnext : ∀ k : ℤ, k.natAbs ≤ 2 ^ 53 → (c ≤ k → n ≤ k) ∧ (k ≤ c → k ≤ n) := by
    intro k hk
    have hfloat : number? (.ofInt k) = some (k : ℚ) := by
      rw [number?_ofInt (by omega), nearest_eq_self hk]
    have hbetween := nearest_between hc hfloat
    rw [heq] at hbetween
    exact_mod_cast hbetween
  have hbelow := hnext (n - 1) (by omega)
  have habove := hnext (n + 1) (by omega)
  omega

end

end ConfigSchema
