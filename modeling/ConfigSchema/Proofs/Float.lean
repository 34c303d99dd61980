import Mathlib

/-!
# Equality of floats

Two floats that compare as equal are the same float, unless one of them is negative zero: positive
and negative zero compare as equal, and not a number compares as equal to nothing.

The proof goes through the bits of a float: sign, exponent and mantissa determine it, and a float
that is a number is determined by what it denotes.
-/

namespace ConfigSchema.FloatBits

open Float.Model Float.Model.UnpackedFloat

/-- The mantissa of a bit pattern. -/
abbrev mantissa (b : BitVec 64) : BitVec 52 := @unpackMantissa Format.binary64 b

/-- The exponent of a bit pattern. -/
abbrev exponent (b : BitVec 64) : BitVec 11 := @unpackExponent Format.binary64 b

/-- The sign of a bit pattern. -/
abbrev sign (b : BitVec 64) : BitVec 1 := @unpackSign Format.binary64 b

theorem toNat_mantissa (b : BitVec 64) : (mantissa b).toNat = b.toNat % 2 ^ 52 := by
  simp [unpackMantissa, BitVec.extractLsb, BitVec.extractLsb']

theorem toNat_exponent (b : BitVec 64) : (exponent b).toNat = b.toNat / 2 ^ 52 % 2 ^ 11 := by
  simp [unpackExponent, BitVec.extractLsb, BitVec.extractLsb', Nat.shiftRight_eq_div_pow]

theorem toNat_sign (b : BitVec 64) : (sign b).toNat = b.toNat / 2 ^ 63 := by
  have hlt : b.toNat < 2 ^ 64 := b.isLt
  have hbit : (sign b).toNat = b.toNat / 2 ^ 63 % 2 := by
    simp [unpackSign, BitVec.extractLsb, BitVec.extractLsb', Nat.shiftRight_eq_div_pow]
  omega

theorem ofBitVec_injective {s t : BitVec 1} (h : Sign.ofBitVec s = Sign.ofBitVec t) : s = t := by
  rcases BitVec.eq_zero_or_eq_one s with rfl | rfl <;>
    rcases BitVec.eq_zero_or_eq_one t with rfl | rfl
  · rfl
  · cases h
  · cases h
  · rfl

/-- Sign, exponent and mantissa determine a bit pattern. -/
theorem ext {a b : BitVec 64} (hs : Sign.ofBitVec (sign a) = Sign.ofBitVec (sign b))
    (he : (exponent a).toNat = (exponent b).toNat)
    (hm : (mantissa a).toNat = (mantissa b).toNat) : a = b := by
  have hsign := congrArg BitVec.toNat (ofBitVec_injective hs)
  rw [toNat_mantissa, toNat_mantissa] at hm
  rw [toNat_exponent, toNat_exponent] at he
  rw [toNat_sign, toNat_sign] at hsign
  apply BitVec.eq_of_toNat_eq
  omega

/-- The mantissa of a normal number has one more bit, which is not stored. -/
theorem toNat_one_append (v : BitVec 52) : (1#1 ++ v).toNat = 2 ^ 52 + v.toNat := by
  rw [BitVec.toNat_append, ← Nat.shiftLeft_add_eq_or_of_lt v.isLt, Nat.shiftLeft_eq]
  rfl

/-- What a bit pattern denotes, told by its parts. -/
inductive Unpacks (b : BitVec 64) : UnpackedFloat → Prop
  | infinity {s : Sign} (hs : s = .ofBitVec (sign b)) (he : exponent b = -1#_)
      (hm : mantissa b = 0#_) : Unpacks b (.infinity s)
  | notANumber : Unpacks b .notANumber
  | zero {s : Sign} (hs : s = .ofBitVec (sign b)) (he : exponent b = 0#_)
      (hm : mantissa b = 0#_) : Unpacks b (.zero s)
  | subnormal {s : Sign} {m : Nat} {e : Int} {hpos : 0 < m} (hs : s = .ofBitVec (sign b))
      (he : exponent b = 0#_) (hm : m = (mantissa b).toNat) : Unpacks b (.finite s m e hpos)
  | normal {s : Sign} {m : Nat} {e : Int} {hpos : 0 < m} (hs : s = .ofBitVec (sign b))
      (he : e = (exponent b).toNat - 1075) (hm : m = 2 ^ 52 + (mantissa b).toNat) :
      Unpacks b (.finite s m e hpos)

theorem unpacks (b : BitVec 64) : Unpacks b (UnpackedFloat.unpack Format.binary64 b) := by
  rw [UnpackedFloat.unpack]
  dsimp only
  split
  · rename_i hones
    split
    · rename_i hzero
      exact .infinity rfl hones hzero
    · exact .notANumber
  · split
    · rename_i hsmall
      split
      · rename_i hzero
        exact .zero rfl hsmall hzero
      · exact .subnormal rfl hsmall rfl
    · exact .normal rfl rfl (toNat_one_append _)

/-- What a bit pattern denotes determines it, unless it is not a number. -/
theorem unpack_injective {a b : BitVec 64}
    (h : UnpackedFloat.unpack Format.binary64 a = UnpackedFloat.unpack Format.binary64 b)
    (hn : UnpackedFloat.unpack Format.binary64 a ≠ .notANumber) : a = b := by
  have ha := unpacks a
  have hb := unpacks b
  rw [← h] at hb
  generalize UnpackedFloat.unpack Format.binary64 a = u at ha hb hn
  have hlt : ∀ c : BitVec 64, (mantissa c).toNat < 2 ^ 52 := fun c => (mantissa c).isLt
  cases ha with
  | infinity hs he hm =>
    cases hb with
    | infinity hs' he' hm' =>
      exact ext (hs.symm.trans hs') (congrArg _ (he.trans he'.symm))
        (congrArg _ (hm.trans hm'.symm))
  | notANumber => exact absurd rfl hn
  | zero hs he hm =>
    cases hb with
    | zero hs' he' hm' =>
      exact ext (hs.symm.trans hs') (congrArg _ (he.trans he'.symm))
        (congrArg _ (hm.trans hm'.symm))
  | subnormal hs he hm =>
    cases hb with
    | subnormal hs' he' hm' =>
      exact ext (hs.symm.trans hs') (congrArg _ (he.trans he'.symm)) (hm.symm.trans hm')
    | normal hs' he' hm' =>
      have hsmall := hlt a
      omega
  | normal hs he hm =>
    cases hb with
    | subnormal hs' he' hm' =>
      have hsmall := hlt b
      omega
    | normal hs' he' hm' => exact ext (hs.symm.trans hs') (by omega) (by omega)

/-- Numbers that compare as equal are the same, but for the sign of a zero. -/
theorem eq_or_zeros_of_compare {u v : UnpackedFloat} (h : u.compare v = some .eq) :
    (u = v ∧ u ≠ .notANumber) ∨ ∃ s t, u = .zero s ∧ v = .zero t := by
  cases u with
  | notANumber => simp [UnpackedFloat.compare] at h
  | infinity s =>
    cases v with
    | notANumber => simp [UnpackedFloat.compare] at h
    | infinity t =>
      cases s <;> cases t <;> simp [UnpackedFloat.compare, compare] at h ⊢
    | zero t => cases s <;> simp [UnpackedFloat.compare] at h
    | finite t m e hm => cases s <;> simp [UnpackedFloat.compare] at h
  | zero s =>
    cases v with
    | notANumber => simp [UnpackedFloat.compare] at h
    | infinity t => cases t <;> simp [UnpackedFloat.compare] at h
    | zero t => exact .inr ⟨s, t, rfl, rfl⟩
    | finite t m e hm => cases t <;> simp [UnpackedFloat.compare] at h
  | finite s m e hm =>
    cases v with
    | notANumber => cases s <;> simp [UnpackedFloat.compare] at h
    | infinity t => cases s <;> cases t <;> simp [UnpackedFloat.compare] at h
    | zero t => cases s <;> simp [UnpackedFloat.compare] at h
    | finite t n f hn =>
      left
      cases s <;> cases t <;>
        simp_all [UnpackedFloat.compare, Ordering.then_eq_eq, Ordering.swap_eq_eq]

end ConfigSchema.FloatBits

namespace ConfigSchema

open Float.Model

/-- What a float denotes determines it, unless it is not a number. -/
theorem float_eq_of_unpack {x y : Float} (h : x.toModel.unpack = y.toModel.unpack)
    (hn : x.toModel.unpack ≠ .notANumber) : x = y := by
  obtain ⟨⟨a, ha⟩⟩ := x
  obtain ⟨⟨b, hb⟩⟩ := y
  have hbits : a.toBitVec = b.toBitVec := FloatBits.unpack_injective h hn
  have hab : a = b := UInt64.toBitVec_inj.mp hbits
  subst hab
  rfl

/-- Zero is a float of its own, and so is negative zero. -/
theorem float_zeros {x : Float} {s : UnpackedFloat.Sign} (h : x.toModel.unpack = .zero s) :
    x = 0.0 ∨ x = -0.0 := by
  cases s with
  | positive => exact .inl (float_eq_of_unpack (h.trans rfl) (by rw [h]; simp))
  | negative => exact .inr (float_eq_of_unpack (h.trans rfl) (by rw [h]; simp))

/-- Floats that compare as equal are the same float, unless one of them is negative zero. -/
theorem float_eq_of_beq {x y : Float} (h : x == y) (hx : x ≠ -0.0) (hy : y ≠ -0.0) : x = y := by
  have hbeq : (x.toModel.unpack.compare y.toModel.unpack == some .eq) = true := h
  have hcompare : x.toModel.unpack.compare y.toModel.unpack = some .eq := eq_of_beq hbeq
  rcases FloatBits.eq_or_zeros_of_compare hcompare with ⟨heq, hn⟩ | ⟨s, t, hs, ht⟩
  · exact float_eq_of_unpack heq hn
  · rw [(float_zeros hs).resolve_right hx, (float_zeros ht).resolve_right hy]

end ConfigSchema
