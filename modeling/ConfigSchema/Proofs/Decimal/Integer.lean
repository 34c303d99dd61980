import ConfigSchema.Decimal.Read
import Mathlib.Tactic.Common

/-!
# Integers read back

The decimal text of an integer is read back as the integer.
-/

namespace ConfigSchema

/-- A decimal digit has the value that its place among the digits gives it. -/
theorem digitValue?_of_isDigit {c : Char} (h : c.isDigit) :
    digitValue? 10 c = some (c.toNat - '0'.toNat) := by
  have hrange : 48 ≤ c.toNat ∧ c.toNat ≤ 57 := by
    simpa [Char.isDigit, UInt32.le_iff_toNat_le] using h
  have hlt : c.toNat - 48 < 10 := by omega
  simp [digitValue?, h, hlt]

/-- Digits are read as the number that they spell. -/
theorem readDigits?_of_isDigit {cs : List Char} (h : ∀ c ∈ cs, c.isDigit) (acc : Nat) :
    readDigits? 10 acc cs = some (Nat.ofDigitChars 10 cs acc) := by
  induction cs generalizing acc with
  | nil => simp [readDigits?]
  | cons c cs ih =>
    have hc : c.isDigit := h c (by simp)
    have hcs : ∀ d ∈ cs, d.isDigit := fun d hd => h d (by simp [hd])
    simp only [readDigits?, digitValue?_of_isDigit hc, Option.bind_some, ih hcs,
      Nat.ofDigitChars_cons]
    rw [Nat.mul_comm]

/-- The decimal digits of a number are digits. -/
theorem isDigit_of_mem_toDigits {n : Nat} {c : Char} (h : c ∈ Nat.toDigits 10 n) : c.isDigit :=
  Nat.isDigit_of_mem_toDigits (by decide) (by decide) h

theorem readNat?_toDigits (n : Nat) : readNat? 10 (Nat.toDigits 10 n) = some n := by
  have hne : (Nat.toDigits 10 n).isEmpty = false := by simp
  rw [readNat?, hne, if_neg Bool.false_ne_true,
    readDigits?_of_isDigit (fun c hc => isDigit_of_mem_toDigits hc), Nat.ofDigitChars_ten_toDigits]

/-- Text that begins with a digit has no sign. -/
theorem readInt?_of_isDigit {base : Nat} {c : Char} {cs : List Char} (h : c.isDigit) :
    readInt? base (c :: cs) = (readNat? base (c :: cs)).map fun n => (n : Int) := by
  have hminus : c ≠ '-' := by rintro rfl; exact absurd h (by decide)
  have hplus : c ≠ '+' := by rintro rfl; exact absurd h (by decide)
  rw [readInt?]
  · rintro cs' heq
    exact hminus (List.cons.inj heq).1
  · rintro cs' heq
    exact hplus (List.cons.inj heq).1

theorem readInt?_toDigits (n : Nat) : readInt? 10 (Nat.toDigits 10 n) = some (n : Int) := by
  have hdigit : ∀ c ∈ Nat.toDigits 10 n, c.isDigit := fun c hc => isDigit_of_mem_toDigits hc
  have hread := readNat?_toDigits n
  cases hds : Nat.toDigits 10 n with
  | nil => exact absurd hds Nat.toDigits_ne_nil
  | cons c cs =>
    rw [hds] at hdigit hread
    rw [readInt?_of_isDigit (hdigit c (by simp)), hread]
    rfl

/-- The text of an integer: its digits, after a minus sign if it is negative. -/
theorem toList_toString_int (n : Int) :
    (toString n).toList =
      if 0 ≤ n then Nat.toDigits 10 n.toNat else '-' :: Nat.toDigits 10 (-n).toNat := by
  rw [Int.toString_eq_repr, Int.repr_eq_if]
  split
  · exact Nat.toList_repr
  · simp

/-- The decimal text of an integer is read back. -/
theorem readInt?_toString (n : Int) : readInt? 10 (toString n).toList = some n := by
  rw [toList_toString_int]
  split
  · rename_i hn
    rw [readInt?_toDigits, Int.toNat_of_nonneg hn]
  · rename_i hn
    rw [readInt?, readNat?_toDigits]
    have habs : ((-n).toNat : Int) = -n := Int.toNat_of_nonneg (by omega)
    simp [habs]

theorem fitsInt64_toInt (n : Int64) : fitsInt64 n.toInt := by
  have hlow : Int64.minValue.toInt ≤ n.toInt := n.minValue_le_toInt
  have hhigh : n.toInt ≤ Int64.maxValue.toInt := n.toInt_le
  simp only [fitsInt64, hlow, hhigh, decide_true, Bool.and_self]

/-- The decimal text of a 64-bit integer is read back. -/
theorem readInt64?_toString (n : Int64) : readInt64? (toString n.toInt) = some n := by
  have hfits : Option.filter fitsInt64 (some n.toInt) = some n.toInt := by
    rw [Option.filter_some, if_pos (fitsInt64_toInt n)]
  rw [readInt64?, readInt?_toString, hfits, Option.map_some, Int64.ofInt_toInt]

end ConfigSchema
