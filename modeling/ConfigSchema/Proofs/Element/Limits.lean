import ConfigSchema.Proofs.Element.Layer
import ConfigSchema.Proofs.Float.Nearest

/-!
# Choices and ranges of integers

An integer is compared to the choices and to the ends of the range after it has been rounded to a
float, and so are the choices. No integer is refused that is allowed, and one that is not is only
accepted if rounding makes it a choice or an end of the range, for which it needs more than 53 bits.

## Main definitions

- `Info.Admits` — an integer is one of the choices and in the range, as far as the numbers tell that
  stand for integers

## Main statements

- `Element.validate_int` — which integers are valid
-/

namespace ConfigSchema

/-- A decimal text has no white space around it. -/
theorem trimWhite_toString (n : ℤ) : Text.trimWhite (toString n) = toString n := by
  have hplain : ∀ c ∈ (toString n).toList, Text.isWhite c = false := by
    intro c hc
    have hdigit : c = '-' ∨ c.isDigit := by
      rw [toList_toString_int] at hc
      split at hc
      · exact .inr (isDigit_of_mem_toDigits hc)
      · exact (List.mem_cons.mp hc).imp_right isDigit_of_mem_toDigits
    rcases hdigit with rfl | hdigit
    · rfl
    · have hrange : 48 ≤ c.toNat ∧ c.toNat ≤ 57 := by
        simpa [Char.isDigit, UInt32.le_iff_toNat_le] using hdigit
      simp only [Text.isWhite, Bool.or_eq_false_iff, Bool.and_eq_false_iff, decide_eq_false_iff_not,
        beq_eq_false_iff_ne]
      omega
  rw [Text.trimWhite, Text.trimChars_of_forall hplain, String.ofList_toList]

namespace Info

variable {info : Info} {path : String}

/-! ## The checks of a scalar -/

/-- A value is refused as a choice for a reason that names the place. -/
theorem checkChoices_or (info : Info) (path : String) (value : Value) :
    info.checkChoices path value = .ok () ∨
      ∃ fault, info.checkChoices path value = .error (.invalid path fault) := by
  rw [checkChoices]
  split
  · exact .inl rfl
  · exact .inr ⟨_, rfl⟩

theorem checkRange_or (info : Info) (path : String) (value : Value) :
    info.checkRange path value = .ok () ∨
      ∃ fault, info.checkRange path value = .error (.invalid path fault) := by
  unfold checkRange
  split
  · exact .inl rfl
  · split
    · exact .inr ⟨_, rfl⟩
    · split
      · exact .inr ⟨_, rfl⟩
      · exact .inr ⟨_, rfl⟩
      · exact .inl rfl

theorem checkChoices_eq_ok {value : Value} : info.checkChoices path value = .ok () ↔
    info.choices = [] ∨ ∃ choice ∈ info.choices, sameScalar choice value := by
  have hiff : (info.choices.isEmpty || info.choices.any (sameScalar · value)) ↔
      info.choices = [] ∨ ∃ choice ∈ info.choices, sameScalar choice value := by
    simp
  rw [checkChoices, ← hiff]
  split <;> simp_all

/-- A number is in the range if it is neither less than the one end nor greater than the other. -/
theorem checkRange_eq_ok {value : Value} {number : Float} (hnumber : value.asFloat? = some number)
    (hnan : number.isNaN = false) : info.checkRange path value = .ok () ↔
      (∀ least ∈ info.min?, ¬number < least) ∧ ∀ most ∈ info.max?, ¬most < number := by
  simp only [checkRange, hnumber, hnan, Bool.and_false, Bool.false_eq_true, if_false]
  cases info.min? with
  | none =>
    cases info.max? with
    | none => simp
    | some most => by_cases hmost : most < number <;> simp [Option.filter, hmost]
  | some least =>
    by_cases hleast : number < least
    · simp [Option.filter, hleast]
    · cases info.max? with
      | none => simp [Option.filter, hleast]
      | some most => by_cases hmost : most < number <;> simp [Option.filter, hleast, hmost]

/-! ## Integers -/

/-- An integer is one of the choices, if there are any, and in the range. What is compared are the
numbers that `compared` gives for integers. -/
structure Admits (info : Info) (compared : ℤ → ℚ) (n : ℤ) : Prop where
  choice : info.choices = [] ∨ ∃ c : Int64, .int c ∈ info.choices ∧ compared c.toInt = compared n
  least : ∀ least ∈ info.min?, ∀ bound, number? least = some bound → bound ≤ compared n
  most : ∀ most ∈ info.max?, ∀ bound, number? most = some bound → compared n ≤ bound

/-- The choices are integers, and the ends of the range are finite. -/
structure IntegerLimits (info : Info) : Prop where
  choices : ∀ choice ∈ info.choices, ∃ c, choice = .int c
  least : ∀ least ∈ info.min?, ∃ bound, number? least = some bound
  most : ∀ most ∈ info.max?, ∃ bound, number? most = some bound

theorem natAbs_toInt_lt (n : Int64) : n.toInt.natAbs < 2 ^ 64 := by
  have hlow := n.minValue_le_toInt
  have hhigh := n.toInt_le
  simp only [Int64.toInt_minValue, Int64.toInt_maxValue] at hlow hhigh
  omega

/-- Integers are compared as floats. -/
theorem sameScalar_int (c n : Int64) :
    sameScalar (.int c) (.int n) ↔ nearest c.toInt = nearest n.toInt :=
  beq_iff (number?_ofInt (natAbs_toInt_lt c)) (number?_ofInt (natAbs_toInt_lt n))

/-- An integer passes the checks if the float that it is rounded to does. -/
theorem admits_nearest_iff (hlimits : info.IntegerLimits) (path : String) (n : Int64) :
    info.Admits nearest n.toInt ↔
      info.checkChoices path (.int n) = .ok () ∧ info.checkRange path (.int n) = .ok () := by
  have hnumber : number? (.ofInt n.toInt) = some (nearest n.toInt) :=
    number?_ofInt (natAbs_toInt_lt n)
  rw [checkChoices_eq_ok, checkRange_eq_ok rfl (isNaN_eq_false hnumber)]
  constructor
  · rintro ⟨hchoice, hleast, hmost⟩
    refine ⟨hchoice.imp_right ?_, fun least hmin hlt => ?_, fun most hmax hlt => ?_⟩
    · rintro ⟨c, hc, hsame⟩
      exact ⟨_, hc, (sameScalar_int c n).mpr hsame⟩
    · obtain ⟨bound, hbound⟩ := hlimits.least least hmin
      exact absurd ((lt_iff hnumber hbound).mp hlt) (hleast least hmin bound hbound).not_gt
    · obtain ⟨bound, hbound⟩ := hlimits.most most hmax
      exact absurd ((lt_iff hbound hnumber).mp hlt) (hmost most hmax bound hbound).not_gt
  · rintro ⟨hchoice, hleast, hmost⟩
    refine ⟨hchoice.imp_right ?_, fun least hmin bound hbound => ?_,
      fun most hmax bound hbound => ?_⟩
    · rintro ⟨choice, hc, hsame⟩
      obtain ⟨c, rfl⟩ := hlimits.choices choice hc
      exact ⟨c, hc, (sameScalar_int c n).mp hsame⟩
    · exact not_lt.mp fun hlt => hleast least hmin ((lt_iff hnumber hbound).mpr hlt)
    · exact not_lt.mp fun hlt => hmost most hmax ((lt_iff hbound hnumber).mpr hlt)

/-- Rounding makes no integer that is allowed a forbidden one. -/
theorem Admits.rounded {n : Int64} (h : info.Admits (↑) n.toInt) :
    info.Admits nearest n.toInt where
  choice := h.choice.imp_right fun ⟨c, hc, hsame⟩ => by
    have heq : c.toInt = n.toInt := by exact_mod_cast hsame
    exact ⟨c, hc, congrArg nearest heq⟩
  least least hmin bound hbound :=
    (le_nearest_iff (natAbs_toInt_lt n) hbound).mpr (.inl (h.least least hmin bound hbound))
  most most hmax bound hbound :=
    (nearest_le_iff (natAbs_toInt_lt n) hbound).mpr (.inl (h.most most hmax bound hbound))

/-- The limits hold an integer that is rounded to the same float as `n`, though it is another
number. -/
def Confuses (info : Info) (n : ℤ) : Prop :=
  (∃ c : Int64, .int c ∈ info.choices ∧ c.toInt ≠ n ∧ nearest c.toInt = nearest n) ∨
    ∃ bound, (bound ∈ info.min? ∨ bound ∈ info.max?) ∧ number? bound = some (nearest n) ∧
      nearest n ≠ n

/-- An integer becomes allowed only if it is rounded to a choice or to an end of the range. -/
theorem Admits.exact {n : Int64} (h : info.Admits nearest n.toInt)
    (hconfuses : ¬info.Confuses n.toInt) : info.Admits (↑) n.toInt := by
  have hsize := natAbs_toInt_lt n
  rw [Confuses, not_or] at hconfuses
  obtain ⟨hchoices, hbounds⟩ := hconfuses
  refine ⟨h.choice.imp_right ?_, fun least hmin bound hbound => ?_,
    fun most hmax bound hbound => ?_⟩
  · rintro ⟨c, hc, hsame⟩
    have heq : c.toInt = n.toInt := by
      by_contra hne
      exact hchoices ⟨c, hc, hne, hsame⟩
    exact ⟨c, hc, congrArg _ heq⟩
  · rcases (le_nearest_iff hsize hbound).mp (h.least least hmin bound hbound) with hle | rfl
    · exact hle
    · by_contra hlt
      exact hbounds ⟨least, .inl hmin, hbound, fun heq => hlt heq.le⟩
  · rcases (nearest_le_iff hsize hbound).mp (h.most most hmax bound hbound) with hle | rfl
    · exact hle
    · by_contra hlt
      exact hbounds ⟨most, .inr hmax, hbound, fun heq => hlt heq.ge⟩

/-- An integer of less than 53 bits is not taken for another. -/
theorem not_confuses {n : Int64} (h : n.toInt.natAbs < 2 ^ 53) : ¬info.Confuses n.toInt := by
  rintro (⟨c, -, hne, hsame⟩ | ⟨bound, -, -, hne⟩)
  · exact hne ((nearest_eq_nearest_iff h (natAbs_toInt_lt c)).mp hsame)
  · exact hne (nearest_eq_self h.le)

end Info

namespace Element

variable {info : Info}

/-- An integer, or the text of one, is valid if it is allowed after rounding, and stays this
integer. -/
theorem validateScalar_int (path : String) {n : Int64} {value : Value}
    (hvalue : value = .int n ∨ value = .str (toString n.toInt)) :
    info.validateScalar .int path value = (do
      info.checkChoices path (.int n)
      info.checkRange path (.int n)
      return .int n) := by
  rcases hvalue with rfl | rfl
  · rfl
  · have hconvert : ScalarType.int.convert path (.str (toString n.toInt)) = .ok (.int n) := by
      simp only [ScalarType.convert, trimWhite_toString, readInt64?_toString]
    rw [Info.validateScalar, hconvert]
    rfl

/-- Which integers are valid: those that are allowed after rounding. These are all that are allowed
and those that are taken for a choice or for an end of the range, which need more than 53 bits. -/
theorem validate_int (hlimits : info.IntegerLimits) (mode : Mode) {n : Int64} {value : Value}
    (hvalue : value = .int n ∨ value = .str (toString n.toInt)) :
    (info.Admits nearest n.toInt → (scalar info .int).validate mode value =
      (scalar info .int).finish .null (.int n) "") ∧
    (¬info.Admits nearest n.toInt → ∃ fault,
      (scalar info .int).validate mode value = .error (.invalid "" fault)) ∧
    (info.Admits (↑) n.toInt → info.Admits nearest n.toInt) ∧
    (info.Admits nearest n.toInt → info.Admits (↑) n.toInt ∨ info.Confuses n.toInt) ∧
    (n.toInt.natAbs < 2 ^ 53 → (info.Admits nearest n.toInt ↔ info.Admits (↑) n.toInt)) := by
  have hreads : mode.Reads value := by
    rcases hvalue with rfl | rfl <;> exact .inr (by simp)
  have hvalidate : (scalar info .int).validate mode value = (do
      info.checkChoices "" (.int n)
      info.checkRange "" (.int n)
      (scalar info .int).finish .null (.int n) "") := by
    rw [validate, validateAt_scalar hreads, validateScalar_int "" hvalue, bind_assoc]
    refine bind_congr fun _ => ?_
    rw [bind_assoc]
    rfl
  have hexact : info.Admits nearest n.toInt → info.Admits (↑) n.toInt ∨ info.Confuses n.toInt :=
    fun h => or_iff_not_imp_right.mpr h.exact
  refine ⟨fun h => ?_, fun h => ?_, Info.Admits.rounded, hexact, fun hsmall => ?_⟩
  · obtain ⟨hchoices, hrange⟩ := (Info.admits_nearest_iff hlimits "" n).mp h
    rw [hvalidate, hchoices, Outcome.ok_bind, hrange, Outcome.ok_bind]
  · rw [Info.admits_nearest_iff hlimits ""] at h
    rw [hvalidate]
    rcases info.checkChoices_or "" (.int n) with hchoices | ⟨fault, hfault⟩
    · rcases info.checkRange_or "" (.int n) with hrange | ⟨fault, hfault⟩
      · exact absurd ⟨hchoices, hrange⟩ h
      · exact ⟨fault, by rw [hchoices, Outcome.ok_bind, hfault, Outcome.error_bind]⟩
    · exact ⟨fault, by rw [hfault, Outcome.error_bind]⟩
  · exact ⟨fun h => (hexact h).resolve_right (Info.not_confuses hsmall), Info.Admits.rounded⟩

/-- Integers up to 2^53, which is the float with one more bit. -/
def upToPower : Info := { max? := some (.ofInt 9007199254740992) }

theorem integerLimits_upToPower : upToPower.IntegerLimits where
  choices choice hchoice := by cases hchoice
  least least hleast := by cases hleast
  most most hmost := by
    obtain rfl := Option.some.inj hmost
    exact ⟨_, number?_ofInt (by decide)⟩

/-- The greatest integer below the end of the range is valid. -/
theorem validate_int_below : (scalar upToPower .int).validate .full (.str "9007199254740991") =
    .ok (.int 9007199254740991) := by
  have hadmits : upToPower.Admits nearest (9007199254740991 : Int64).toInt := by
    refine ⟨.inl rfl, fun least hleast => (nomatch hleast), fun most hmost bound hbound => ?_⟩
    obtain rfl := Option.some.inj hmost
    rw [number?_ofInt (by decide), nearest_eq_self (by decide)] at hbound
    obtain rfl := Option.some.inj hbound
    have hint : (9007199254740991 : Int64).toInt = 9007199254740991 := rfl
    rw [hint, nearest_eq_self (by decide)]
    norm_num
  have htext : Value.str "9007199254740991" = .str (toString (9007199254740991 : Int64).toInt) :=
    congrArg Value.str (by decide)
  exact (validate_int integerLimits_upToPower .full (.inr htext)).1 hadmits

/-- The least integer above the end of the range is valid, too: it is rounded to the end. -/
theorem validate_int_above : ¬∀ (info : Info) (n : Int64), info.IntegerLimits →
    (scalar info .int).check = .ok () →
    ((scalar info .int).validate .full (.int n) = .ok (.int n) ↔ info.Admits (↑) n.toInt) := by
  intro h
  have hvalid : (scalar upToPower .int).validate .full (.int 9007199254740993) =
      .ok (.int 9007199254740993) := rfl
  have hadmits := (h upToPower 9007199254740993 integerLimits_upToPower rfl).mp hvalid
  have hmost := hadmits.most _ rfl 9007199254740992
    (by rw [number?_ofInt (by decide), nearest_eq_self (by decide)]; norm_num)
  have hint : (9007199254740993 : Int64).toInt = 9007199254740993 := rfl
  rw [hint] at hmost
  norm_num at hmost

end Element

end ConfigSchema
