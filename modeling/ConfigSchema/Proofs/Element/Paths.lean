import ConfigSchema.Element.Default
import ConfigSchema.Element.Validate
import ConfigSchema.Proofs.Outcome

/-!
# Paths do not matter to what is valid

The path at which a value is validated appears in failures only. At any two paths the same values
are valid, with the same valid forms. So it is with the path at which a default is asked for.

## Main statements

- `resolveDerived_alike`, `Info.foldKeys_alike`, … — the steps of validation
- `Element.validateAt_alike` — validation
- `Element.defaultAt_alike` — defaults
-/

namespace ConfigSchema

open Outcome (Alike)

/-! ## Steps of validation -/

theorem Info.absent_alike (info : Info) (p q : String) :
    Alike (info.absent p) (info.absent q) := by
  unfold Info.absent
  split
  · exact .refl _
  · split
    · exact .error _ _
    · exact .refl _

theorem ScalarType.convert_alike (type : ScalarType) (p q : String) (value : Value) :
    Alike (type.convert p value) (type.convert q value) := by
  intro result
  unfold ScalarType.convert
  split <;> (try split) <;> (try split) <;> simp_all

namespace Info

theorem checkChoices_alike (info : Info) (p q : String) (value : Value) :
    Alike (info.checkChoices p value) (info.checkChoices q value) := by
  unfold Info.checkChoices
  split
  · exact .refl _
  · exact .error _ _

theorem checkRange_alike (info : Info) (p q : String) (value : Value) :
    Alike (info.checkRange p value) (info.checkRange q value) := by
  intro result
  unfold Info.checkRange
  split <;> (try split) <;> (try split) <;> simp_all

theorem validateScalar_alike (info : Info) (type : ScalarType) (p q : String) (value : Value) :
    Alike (info.validateScalar type p value) (info.validateScalar type q value) := by
  unfold Info.validateScalar
  split
  · exact info.absent_alike p q
  · refine (type.convert_alike p q value).bind fun converted => ?_
    refine (info.checkChoices_alike p q converted).bind fun _ => ?_
    exact (info.checkRange_alike p q converted).bind fun _ => .refl _

theorem codeLine_alike (p q : String) (value : Value) :
    Alike (codeLine p value) (codeLine q value) := by
  cases value with
  | seq items => exact .error _ _
  | map fields => exact .error _ _
  | _ => exact .refl _

theorem codeLines_alike (p q : String) (index : Nat) (items : List Value) :
    Alike (codeLines p index items) (codeLines q index items) := by
  induction items generalizing index with
  | nil => exact .refl _
  | cons item rest ih =>
    refine (codeLine_alike _ _ item).bind fun line? => ?_
    exact (ih (index + 1)).bind fun _ => .refl _

theorem validateCode_alike (info : Info) (p q : String) (value : Value) :
    Alike (info.validateCode p value) (info.validateCode q value) := by
  cases value with
  | null => exact info.absent_alike p q
  | seq items => exact (codeLines_alike p q 0 items).bind fun _ => .refl _
  | map fields => exact .error _ _
  | _ => exact .refl _

end Info

theorem foldEntries_alike (keyCase : KeyCase) (p q : String) (out : OrderedMap Value)
    (entries : List (String × Value)) :
    Alike (foldEntries keyCase p out entries) (foldEntries keyCase q out entries) := by
  induction entries generalizing out with
  | nil => exact .refl _
  | cons entry rest ih =>
    obtain ⟨key, value⟩ := entry
    simp only [foldEntries]
    split
    · exact .error _ _
    · exact ih _

namespace Info

theorem foldKeys_alike (info : Info) (p q : String) (fields : OrderedMap Value) :
    Alike (info.foldKeys p fields) (info.foldKeys q fields) := by
  unfold Info.foldKeys
  split
  · exact .refl _
  · exact foldEntries_alike _ p q _ _

theorem sectionFields_alike (info : Info) (p q : String) (value : Value) :
    Alike (info.sectionFields p value) (info.sectionFields q value) := by
  cases value with
  | null => exact (info.absent_alike p q).bind fun _ => .refl _
  | map fields => exact info.foldKeys_alike p q fields
  | _ => exact .error _ _

theorem categoryFields_alike (info : Info) (p q : String) (value : Value) :
    Alike (info.categoryFields p value) (info.categoryFields q value) := by
  cases value with
  | null =>
    simp only [Info.categoryFields]
    split
    · exact .error _ _
    · exact .refl _
  | map fields => exact info.foldKeys_alike p q fields
  | _ => exact .error _ _

theorem listItems_alike (info : Info) (item : Element) (p q : String) (value : Value) :
    Alike (info.listItems item p value) (info.listItems item q value) := by
  intro result
  unfold Info.listItems
  split <;> (try split) <;> (try split) <;> simp_all

theorem checkKey_alike (info : Info) (p q key : String) :
    Alike (info.checkKey p key) (info.checkKey q key) := by
  unfold Info.checkKey
  split
  · exact .refl _
  · exact .error _ _

end Info

theorem undeclaredEntries_alike (children : List Element) (extraKeys : Bool) (p q : String)
    (entries : List (String × Value)) :
    Alike (undeclaredEntries children extraKeys p entries)
      (undeclaredEntries children extraKeys q entries) := by
  induction entries with
  | nil => exact .refl _
  | cons entry rest ih =>
    obtain ⟨key, value⟩ := entry
    simp only [undeclaredEntries]
    split
    · exact ih
    · split
      · exact ih.bind fun _ => .refl _
      · exact .error _ _

theorem takeShared_alike {check : String → Value → Except Failure Value}
    (h : ∀ p q value, Alike (check p value) (check q value)) (p q : String)
    (defaultKey? : Option String) (fields : OrderedMap Value) :
    Alike (takeShared check p defaultKey? fields) (takeShared check q defaultKey? fields) := by
  unfold takeShared
  split
  · exact .refl _
  · split
    · exact .refl _
    · exact .refl _
    · exact (h _ _ _).bind fun _ => .refl _
    · exact .error _ _

theorem checkLength_alike (p q : String) (minLength? maxLength? : Option Nat) (size : Nat) :
    Alike (checkLength p minLength? maxLength? size)
      (checkLength q minLength? maxLength? size) := by
  unfold checkLength
  split
  · exact .error _ _
  · exact .error _ _
  · exact .refl _

theorem resolveDerived_alike (p q : String) (entries : OrderedMap Value)
    (children : List Element) :
    Alike (resolveDerived p entries children) (resolveDerived q entries children) := by
  induction children generalizing entries with
  | nil => exact .refl _
  | cons child rest ih =>
    cases child with
    | derived info resolve =>
      simp only [resolveDerived]
      cases resolve entries with
      | ok value => exact ih _
      | error reason => exact .error _ _
    | _ => exact ih _

namespace Element

theorem finish_alike (element : Element) (siblings value : Value) (p q : String) :
    Alike (element.finish siblings value p) (element.finish siblings value q) := by
  intro result
  unfold Element.finish
  split <;> (try split) <;> (try split) <;> simp_all

theorem finishEntry_alike (element : Element) (p q : String) (fields : OrderedMap Value)
    (key : String) :
    Alike (element.finishEntry p fields key) (element.finishEntry q fields key) :=
  (element.finish_alike _ _ _ _).bind fun _ => .refl _

theorem finishItems_alike (item : Element) (p q : String) (items : List Value) :
    Alike (item.finishItems p items) (item.finishItems q items) :=
  Alike.foldlM (fun _ _ => (item.finish_alike _ _ _ _).bind fun _ => .refl _) _ _

/-! ## Validation -/

mutual

/-- At any two paths the same values are valid, with the same valid forms. -/
theorem validateAt_alike (element : Element) (mode : Mode) (p q : String) (value : Value) :
    Alike (element.validateAt mode p value) (element.validateAt mode q value) := by
  rw [validateAt.eq_def element mode p, validateAt.eq_def element mode q]
  dsimp only
  by_cases habsent : (mode == .layer && value.isNull) = true
  · rw [if_pos habsent, if_pos habsent]
    exact .refl _
  · rw [if_neg habsent, if_neg habsent]
    cases element with
    | scalar info type => exact info.validateScalar_alike type p q value
    | code info => exact info.validateCode_alike p q value
    | derived info resolve => exact .error _ _
    | keyed info children extraKeys =>
      refine (info.sectionFields_alike p q value).bind fun fields => ?_
      refine (undeclaredEntries_alike children extraKeys p q fields.entries).bind fun extras => ?_
      refine (validateChildren_alike children mode p q fields).bind fun entries => ?_
      refine (resolveDerived_alike p q _ children).bind fun derived => ?_
      have hfinish := Alike.foldlM (fun fields (child : Element) =>
        child.finishEntry_alike p q fields child.key) (derived.insertMany extras) children
      exact hfinish.bind fun _ => .refl _
    | category info item minEntries defaultKey? =>
      refine (info.categoryFields_alike p q value).bind fun fields => ?_
      refine (takeShared_alike (fun p q value => validateAt_alike item .layer p q value) p q
        defaultKey? fields).bind fun shared => ?_
      refine (Alike.foldlM (fun out entry => ?_) _ shared.2.entries).bind fun entries => ?_
      · refine (info.checkKey_alike _ _ entry.1).bind fun _ => ?_
        exact (validateAt_alike item mode _ _ _).bind fun _ => .refl _
      · have hfinish := Alike.foldlM (fun fields key => item.finishEntry_alike p q fields key)
          entries entries.keys
        split
        · exact .error _ _
        · exact hfinish.bind fun _ => .refl _
    | list info item minLength? maxLength? =>
      refine (info.listItems_alike item p q value).bind fun items => ?_
      refine (checkLength_alike p q minLength? maxLength? _).bind fun _ => ?_
      refine (Alike.mapM fun entry _ => validateAt_alike item mode _ _ entry.1).bind
        fun valid => ?_
      have hfinish := (item.finishItems_alike p q valid).bind fun items =>
        Alike.refl (pure (Value.seq items) : Except Failure Value)
      split
      · exact .error _ _
      · exact hfinish

theorem validateChildren_alike (children : List Element) (mode : Mode) (p q : String)
    (fields : OrderedMap Value) :
    Alike (validateChildren children mode p fields) (validateChildren children mode q fields) := by
  cases children with
  | nil => exact .refl _
  | cons child rest =>
    simp only [validateChildren]
    have hrest : ∀ valid, Alike
        ((validateChildren rest mode p fields) >>= fun more =>
          (pure ((child.key, valid) :: more) : Except Failure _))
        ((validateChildren rest mode q fields) >>= fun more => pure ((child.key, valid) :: more)) :=
      fun valid => (validateChildren_alike rest mode p q fields).bind fun _ => .refl _
    split
    · exact (Alike.refl _).bind hrest
    · exact (validateAt_alike child mode _ _ _).bind hrest

end

/-! ## Defaults -/

mutual

/-- At any two paths an element has the same default. -/
theorem defaultAt_alike (element : Element) (p q : String) :
    Alike (element.defaultAt p) (element.defaultAt q) := by
  rw [defaultAt.eq_def element p, defaultAt.eq_def element q]
  dsimp only
  cases element.info.default? with
  | some default => exact .refl _
  | none =>
    dsimp only
    split
    · exact .error _ _
    · cases element with
      | keyed info children extraKeys =>
        refine (defaultChildren_alike children p q).bind fun entries => ?_
        have hderived := resolveDerived_alike p q (.ofList entries) children
        intro result
        cases hp : resolveDerived p (.ofList entries) children with
        | ok fields => rw [(hderived fields).mp hp]
        | error failure =>
          cases hq : resolveDerived q (.ofList entries) children with
          | ok fields => simp [(hderived fields).mpr hq] at hp
          | error other => simp [throw, throwThe, MonadExceptOf.throw]
      | _ => exact .refl _

theorem defaultChildren_alike (children : List Element) (p q : String) :
    Alike (defaultChildren children p) (defaultChildren children q) := by
  cases children with
  | nil => exact .refl _
  | cons child rest =>
    simp only [defaultChildren]
    have hrest : ∀ value, Alike
        ((defaultChildren rest p) >>= fun more =>
          (pure ((child.key, value) :: more) : Except Failure _))
        ((defaultChildren rest q) >>= fun more => pure ((child.key, value) :: more)) :=
      fun value => (defaultChildren_alike rest p q).bind fun _ => .refl _
    split
    · exact (Alike.refl _).bind hrest
    · exact (defaultAt_alike child _ _).bind hrest

end

end Element

end ConfigSchema
