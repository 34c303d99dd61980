import ConfigSchema.Element.Lookup
import ConfigSchema.Proofs.Element.Layer
import ConfigSchema.Proofs.Element.Undemanding

/-!
# Schemas with another default

A schema in which one element gets another default is consistent, if it was so before: layers do not
depend on defaults, and the default that is stored is the layer that a value gives, which is the
layer that it gives itself.

## Main definitions

- `Element.withDefault` — the element with a default
- `Element.Replaces` — two schemas that are the same but for the element that steps lead to

## Main statements

- `Element.Replaces.updateFrom`, `Element.exists_of_updateFrom` — a change at a path replaces the
  element there
- `Element.Replaces.checkAt_withDefault` — another default keeps a schema consistent
- `Element.withDefaultAt_stores` — what is true of a schema that has got another default
-/

namespace ConfigSchema.Element

/-- The element with a default. -/
def withDefault (element : Element) (default : Value) : Element :=
  element.withInfo { element.info with default? := some default }

/-- Two schemas are the same, but that steps lead to one element in the first and to another one in
the second. -/
inductive Replaces (target new : Element) : (segments : List String) → Element → Element → Prop
  | self : Replaces target new [] target new
  | child {info : Info} {before after : List Element} {child changed : Element} {extraKeys : Bool}
      {segment : String} {rest : List String}
      (hbefore : ∀ other ∈ before, other.isNamed segment = false) (hchild : child.isNamed segment)
      (h : Replaces target new rest child changed) :
      Replaces target new (segment :: rest) (.keyed info (before ++ child :: after) extraKeys)
        (.keyed info (before ++ changed :: after) extraKeys)
  | entry {info : Info} {item changed : Element} {minEntries : Nat} {defaultKey? : Option String}
      {segment : String} {rest : List String} (h : Replaces target new rest item changed) :
      Replaces target new (segment :: rest) (.category info item minEntries defaultKey?)
        (.category info changed minEntries defaultKey?)
  | item {info : Info} {item changed : Element} {minLength? maxLength? : Option Nat}
      {segment : String} {rest : List String}
      (hsegment : (segment == "*" || (Path.index? segment).isSome) = true)
      (h : Replaces target new rest item changed) :
      Replaces target new (segment :: rest) (.list info item minLength? maxLength?)
        (.list info changed minLength? maxLength?)

/-! ## Changes at a path -/

theorem updateChild_append {f : Element → Except Failure Element} {segment : String}
    {before after : List Element} {child new : Element}
    (hbefore : ∀ other ∈ before, other.isNamed segment = false) (hchild : child.isNamed segment)
    (h : f child = .ok new) :
    updateChild f segment (before ++ child :: after) = some (.ok (before ++ new :: after)) := by
  induction before with
  | nil => rw [List.nil_append, updateChild, if_pos hchild, h, List.nil_append]
  | cons other before ih =>
    obtain ⟨hother, hbefore⟩ := List.forall_mem_cons.mp hbefore
    rw [List.cons_append, updateChild, hother, if_neg Bool.false_ne_true, ih hbefore]
    rfl

theorem exists_of_updateChild {f : Element → Except Failure Element} {segment : String}
    {children changed : List Element}
    (h : updateChild f segment children = some (.ok changed)) :
    ∃ before child new after, (∀ other ∈ before, other.isNamed segment = false) ∧
      child.isNamed segment ∧ f child = .ok new ∧ children = before ++ child :: after ∧
      changed = before ++ new :: after := by
  induction children generalizing changed with
  | nil => cases h
  | cons first rest ih =>
    rw [updateChild] at h
    split at h
    · rename_i hfirst
      split at h
      · rename_i new hnew
        obtain rfl := Except.ok.inj (Option.some.inj h)
        exact ⟨[], first, new, rest, by simp, hfirst, hnew, rfl, rfl⟩
      · cases h
    · rename_i hfirst
      obtain ⟨result, hresult, h⟩ := Option.map_eq_some_iff.mp h
      cases result with
      | error failure => cases h
      | ok others =>
        obtain rfl := Except.ok.inj h
        obtain ⟨before, child, new, after, hbefore, hchild, hnew, rfl, rfl⟩ := ih hresult
        refine ⟨first :: before, child, new, after, ?_, hchild, hnew, rfl, rfl⟩
        exact List.forall_mem_cons.mpr ⟨by simpa using hfirst, hbefore⟩

/-- A change at a path replaces the element to which it leads. -/
theorem exists_of_updateFrom {f : Element → Except Failure Element} {path : String}
    {segments : List String} {element changed : Element}
    (h : updateFrom f path segments element = .ok changed) :
    ∃ target new, Replaces target new segments element changed ∧ f target = .ok new := by
  induction segments generalizing path element changed with
  | nil => exact ⟨element, changed, .self, h⟩
  | cons segment rest ih =>
    cases element with
    | keyed info children extraKeys =>
      rw [updateFrom] at h
      split at h
      · rename_i result hresult
        obtain ⟨others, rfl, h⟩ := Outcome.bind_eq_ok.mp h
        obtain rfl := Except.ok.inj h
        obtain ⟨before, child, new, after, hbefore, hchild, hnew, rfl, rfl⟩ :=
          exists_of_updateChild hresult
        obtain ⟨target, new, hreplaces, hf⟩ := ih hnew
        exact ⟨target, new, .child hbefore hchild hreplaces, hf⟩
      · cases h
    | category info item minEntries defaultKey? =>
      obtain ⟨changed, hchanged, h⟩ := Outcome.bind_eq_ok.mp h
      obtain rfl := Except.ok.inj h
      obtain ⟨target, new, hreplaces, hf⟩ := ih hchanged
      exact ⟨target, new, .entry hreplaces, hf⟩
    | list info item minLength? maxLength? =>
      rw [updateFrom] at h
      split at h
      · rename_i hsegment
        obtain ⟨changed, hchanged, h⟩ := Outcome.bind_eq_ok.mp h
        obtain rfl := Except.ok.inj h
        obtain ⟨target, new, hreplaces, hf⟩ := ih hchanged
        exact ⟨target, new, .item hsegment hreplaces, hf⟩
      · cases h
    | _ => cases h

namespace Replaces

variable {target new element changed : Element} {segments : List String}

theorem updateFrom (h : Replaces target new segments element changed)
    {f : Element → Except Failure Element} (hf : f target = .ok new) (path : String) :
    Element.updateFrom f path segments element = .ok changed := by
  induction h generalizing path with
  | self => exact hf
  | child hbefore hchild _ ih =>
    rw [Element.updateFrom, updateChild_append hbefore hchild (ih _)]
    rfl
  | entry _ ih =>
    rw [Element.updateFrom, ih]
    rfl
  | item hsegment _ ih =>
    rw [Element.updateFrom, if_pos hsegment, ih]
    rfl

theorem lookupFrom (h : Replaces target new segments element changed) (path : String) :
    Element.lookupFrom path element segments = .ok target := by
  induction h generalizing path with
  | self => rfl
  | @child _ before after child _ _ segment _ hbefore hchild _ ih =>
    have hfind : (before ++ child :: after).find? (·.isNamed segment) = some child := by
      have hnone : before.find? (·.isNamed segment) = none := by simpa using hbefore
      rw [List.find?_append, hnone, Option.none_or, List.find?_cons, hchild]
    rw [Element.lookupFrom]
    dsimp only [child?]
    rw [hfind]
    exact ih _
  | entry _ ih =>
    rw [Element.lookupFrom]
    exact ih _
  | item hsegment _ ih =>
    rw [Element.lookupFrom]
    dsimp only [child?]
    rw [if_pos hsegment]
    exact ih _

/-- What is replaced is a part of the schema. -/
theorem within (h : Replaces target new segments element changed) : target.Within element := by
  induction h with
  | self => exact .self
  | child _ _ _ ih => exact .part (List.mem_append_right _ List.mem_cons_self) ih
  | entry _ ih => exact .part (List.mem_singleton.mpr rfl) ih
  | item _ _ ih => exact .part (List.mem_singleton.mpr rfl) ih

theorem name?_eq (h : Replaces target new segments element changed)
    (hname : new.info.name? = target.info.name?) : changed.info.name? = element.info.name? := by
  cases h with
  | self => exact hname
  | _ => rfl

theorem isKeyed_eq (h : Replaces target new segments element changed)
    (hkeyed : new.isKeyed = target.isKeyed) : changed.isKeyed = element.isKeyed := by
  cases h with
  | self => exact hkeyed
  | _ => rfl

/-- The same steps lead to the element that has been put in place of another one of its name. -/
theorem again (h : Replaces target new segments element changed)
    (hname : new.info.name? = target.info.name?) : Replaces new new segments changed changed := by
  induction h with
  | self => exact .self
  | child hbefore hchild h ih =>
    refine .child hbefore ?_ ih
    rwa [isNamed, h.name?_eq hname]
  | entry _ ih => exact .entry ih
  | item hsegment _ ih => exact .item hsegment ih

/-- What is the same of the two elements is the same of the schemas. -/
theorem mapInfo_eq {f : Info → Info} (h : Replaces target new segments element changed)
    (hnew : new.mapInfo f = target.mapInfo f) : changed.mapInfo f = element.mapInfo f := by
  induction h with
  | self => exact hnew
  | child _ _ _ ih =>
    simp only [mapInfo, mapInfos_eq_map, List.map_append, List.map_cons, ih]
  | entry _ ih => simp only [mapInfo, ih]
  | item _ _ ih => simp only [mapInfo, ih]

end Replaces

/-! ## Consistency -/

section

variable {element : Element} {default : Value} {path : String}

@[simp] theorem info_withDefault (element : Element) (default : Value) :
    (element.withDefault default).info = { element.info with default? := some default } := by
  cases element <;> rfl

theorem isKeyed_withDefault (element : Element) (default : Value) :
    (element.withDefault default).isKeyed = element.isKeyed := by
  cases element <;> rfl

theorem isDerived_withDefault (element : Element) (default : Value) :
    (element.withDefault default).isDerived = element.isDerived := by
  cases element <;> rfl

theorem withDefault_withDefault (element : Element) (default other : Value) :
    (element.withDefault default).withDefault other = element.withDefault other := by
  cases element <;> rfl

/-- Layers do not tell an element with a default from the one without it. -/
theorem mapInfo_withDefault (element : Element) (default : Value) :
    (element.withDefault default).mapInfo Info.eased = element.mapInfo Info.eased := by
  cases element <;> rfl

theorem validateAt_layer_withDefault (element : Element) (default : Value) (path : String)
    (value : Value) :
    (element.withDefault default).validateAt .layer path value =
      element.validateAt .layer path value :=
  validateAt_layer_congr (element.mapInfo_withDefault default) path value

theorem checkParts_withDefault (element : Element) (default : Value) (path : String)
    (inSection : Bool) : (element.withDefault default).checkParts path inSection =
      element.checkParts path inSection := by
  cases element with
  | scalar info type => cases type <;> rfl
  | _ => rfl

theorem checkChoices_withDefault (element : Element) (default : Value) (path : String) :
    (element.withDefault default).checkChoices path = element.checkChoices path := by
  cases element <;> rfl

theorem checkInfo_withDefault (h : element.checkInfo path = .ok ()) :
    (element.withDefault default).checkInfo path = .ok () := by
  have hnumeric : (element.withDefault default).isNumeric = element.isNumeric := by
    cases element <;> rfl
  unfold checkInfo at h ⊢
  rw [info_withDefault, hnumeric]
  dsimp only at h ⊢
  cases hinvalid : element.info.name?.filter (!isName ·) with
  | some name =>
    rw [hinvalid] at h
    cases h
  | none =>
    rw [hinvalid] at h
    dsimp only at h ⊢
    split at h
    · cases h
    · -- with a default, what is required may be hidden
      rw [Option.isNone_some, Bool.and_false, if_neg Bool.false_ne_true]
      exact h

/-- An element passes the check with a default that is valid as a layer. -/
theorem checkAt_withDefault {inSection : Bool} (hcheck : element.checkAt path inSection = .ok ())
    (hplain : element.isDerived = false) {layer : Value}
    (hlayer : element.validateAt .layer path default = .ok layer) :
    (element.withDefault default).checkAt path inSection = .ok () := by
  obtain ⟨hinfo, hparts, hchoices, -⟩ := checkAt_eq_ok_iff.mp hcheck
  refine checkAt_eq_ok_iff.mpr ⟨checkInfo_withDefault hinfo, ?_, ?_, ?_⟩
  · rwa [checkParts_withDefault]
  · rwa [checkChoices_withDefault]
  · have hdefault : (element.withDefault default).info.default? = some default := by
      rw [info_withDefault]
    rw [checkDefault, hdefault, isDerived_withDefault, hplain]
    dsimp only
    rw [if_neg Bool.false_ne_true, validateAt_layer_withDefault, hlayer]

/-- Whether the default of an element is valid does not depend on the defaults of its parts. -/
theorem checkDefault_of_eased {other : Element} (h : element.checkDefault path = .ok ())
    (hinfo : other.info = element.info) (hderived : other.isDerived = element.isDerived)
    (heased : other.mapInfo Info.eased = element.mapInfo Info.eased) :
    other.checkDefault path = .ok () := by
  rw [checkDefault] at h ⊢
  rw [hinfo, hderived]
  simpa only [validateAt_layer_congr heased] using h

theorem checkChildren_append {before after : List Element} {child changed : Element}
    {seen : List String} (hname : changed.info.name? = child.info.name?)
    (hchild : ∀ path, child.checkAt path true = .ok () → changed.checkAt path true = .ok ())
    (h : checkChildren (before ++ child :: after) path seen = .ok ()) :
    checkChildren (before ++ changed :: after) path seen = .ok () := by
  induction before generalizing seen with
  | nil =>
    obtain ⟨name, hsome, hseen, hcheck, hrest⟩ := checkChildren_cons_eq_ok_iff.mp h
    exact checkChildren_cons_eq_ok_iff.mpr ⟨name, hname.trans hsome, hseen, hchild _ hcheck, hrest⟩
  | cons other before ih =>
    obtain ⟨name, hsome, hseen, hcheck, hrest⟩ := checkChildren_cons_eq_ok_iff.mp h
    exact checkChildren_cons_eq_ok_iff.mpr ⟨name, hsome, hseen, hcheck, ih hrest⟩

end

/-- A schema stays consistent with another default that the element at its place may have. -/
theorem Replaces.checkAt_withDefault {target element changed : Element} {default : Value}
    {segments : List String}
    (h : Replaces target (target.withDefault default) segments element changed)
    (hplain : target.isDerived = false)
    (hlayer : ∀ path, ∃ layer, target.validateAt .layer path default = .ok layer)
    {path : String} {inSection : Bool} (hcheck : element.checkAt path inSection = .ok ()) :
    changed.checkAt path inSection = .ok () := by
  have hname : (target.withDefault default).info.name? = target.info.name? := by
    rw [info_withDefault]
  induction h generalizing path inSection with
  | self =>
    obtain ⟨layer, hlayer⟩ := hlayer path
    exact Element.checkAt_withDefault hcheck hplain hlayer
  | child hbefore hchild h ih =>
    obtain ⟨hinfo, hparts, hchoices, hdefault⟩ := checkAt_eq_ok_iff.mp hcheck
    refine checkAt_eq_ok_iff.mpr ⟨hinfo, ?_, hchoices, ?_⟩
    · rw [checkParts] at hparts ⊢
      split at hparts
      · cases hparts
      · rw [if_neg ‹_›]
        exact checkChildren_append (h.name?_eq hname) (fun _ => ih) hparts
    · exact checkDefault_of_eased hdefault rfl rfl
        (mapInfo_eq (.child hbefore hchild h) (target.mapInfo_withDefault default))
  | @entry info item changed minEntries defaultKey? segment rest h ih =>
    obtain ⟨hinfo, hparts, hchoices, hdefault⟩ := checkAt_eq_ok_iff.mp hcheck
    refine checkAt_eq_ok_iff.mpr ⟨hinfo, ?_, hchoices, ?_⟩
    · rw [checkParts, h.isKeyed_eq (target.isKeyed_withDefault default)]
      rw [checkParts] at hparts
      split at hparts
      · cases hparts
      · rw [if_neg ‹_›]
        exact ih hparts
    · exact checkDefault_of_eased hdefault rfl rfl
        (mapInfo_eq (.entry h : Replaces _ _ (segment :: rest) _ _)
          (target.mapInfo_withDefault default))
  | item hsegment h ih =>
    obtain ⟨hinfo, hparts, hchoices, hdefault⟩ := checkAt_eq_ok_iff.mp hcheck
    refine checkAt_eq_ok_iff.mpr ⟨hinfo, ?_, hchoices, ?_⟩
    · unfold checkParts at hparts ⊢
      dsimp only at hparts ⊢
      split at hparts
      · split at hparts
        · cases hparts
        · rw [if_neg ‹_›]
          exact ih hparts
      · exact ih hparts
    · exact checkDefault_of_eased hdefault rfl rfl
        (mapInfo_eq (.item hsegment h) (target.mapInfo_withDefault default))

/-! ## Schemas with another default -/

/-- A consistent schema without last steps that gets a default at a path stays consistent. The
default is the layer that the element at the path makes of the value, nothing else is changed, and
the same default may be set again, which changes nothing. -/
theorem withDefaultAt_stores {schema changed : Element} {dotted : String} {value : Value}
    (hcheck : schema.check = .ok ())
    (hp : schema.Everywhere Plain)
    (hvalue : value.Proper) (h : schema.withDefaultAt dotted value = .ok changed) :
    changed.check = .ok () ∧ ∃ target layer,
      schema.lookup dotted = .ok target ∧ target.validate .layer value = .ok layer ∧
      changed.lookup dotted = .ok (target.withDefault layer) ∧
      Replaces target (target.withDefault layer) (Path.segments dotted) schema changed ∧
      changed.withDefaultAt dotted layer = .ok changed := by
  obtain ⟨target, new, hreplaces, htarget⟩ := exists_of_updateFrom h
  split at htarget
  · cases htarget
  · rename_i hplain
    obtain ⟨layer, hlayer, hnew⟩ := Outcome.bind_eq_ok.mp htarget
    obtain rfl : target.withDefault layer = new := Except.ok.inj hnew
    have hname : (target.withDefault layer).info.name? = target.info.name? := by
      rw [info_withDefault]
    have hlayers : ∀ path, target.validateAt .layer path value = .ok layer := fun path =>
      (target.validateAt_alike .layer dotted path value layer).mp hlayer
    have hc : target.Checked := Checked.within ⟨"", false, hcheck⟩ hreplaces.within
    have hp : target.Everywhere Plain := hp.of_within hreplaces.within
    -- the layer is read like the value, so it is its own layer
    have hstored : ∀ path, target.validateAt .layer path layer = .ok layer := fun path =>
      (readsAlike_of_validateAt hc hp hvalue hlayer .layer path).trans (hlayers path)
    refine ⟨?_, target, layer, hreplaces.lookupFrom "", ?_, (hreplaces.again hname).lookupFrom "",
      hreplaces, ?_⟩
    · exact hreplaces.checkAt_withDefault (by simpa using hplain)
        (fun path => ⟨layer, hstored path⟩) hcheck
    · rw [hp.self.validate]
      exact hlayers ""
    · refine (hreplaces.again hname).updateFrom ?_ ""
      rw [isDerived_withDefault, if_neg hplain, validateAt_layer_withDefault, hstored]
      exact congrArg Except.ok (target.withDefault_withDefault layer layer)

/-- A harbour whose limits have a default of their own. -/
def harbour (load? : Option Value) : Element :=
  keyed {} [
    keyed { name? := some "limits", default? := some (.map ⟨[("load", .str "7")]⟩) } [
      scalar { name? := some "load", default? := load? } .int] false] false

/-- The text of a number is stored as the number. -/
theorem withDefaultAt_stores_harbour :
    (harbour none).withDefaultAt "limits.load" (.str " 12 ") = .ok (harbour (some (.int 12))) ∧
      (harbour (some (.int 12))).check = .ok () ∧
      (harbour (some (.int 12))).lookup "limits.load" =
        .ok (scalar { name? := some "load", default? := some (.int 12) } .int) ∧
      (harbour (some (.int 12))).withDefaultAt "limits.load" (.int 12) =
        .ok (harbour (some (.int 12))) := by
  have hsegments : Path.segments "limits.load" = ["limits", "load"] := by decide
  have hp : (harbour none).Everywhere Plain := by
    simp [harbour, Everywhere.keyed_iff, Everywhere.scalar_iff, info]
  have hstored : (harbour none).withDefaultAt "limits.load" (.str " 12 ") =
      .ok (harbour (some (.int 12))) := by
    rw [withDefaultAt, hsegments]
    rfl
  obtain ⟨hcheck, target, layer, htarget, hlayer, hchanged, -, hagain⟩ :=
    withDefaultAt_stores rfl hp (.str _) hstored
  obtain rfl : scalar { name? := some "load" } .int = target := by
    rw [lookup, hsegments] at htarget
    exact Except.ok.inj htarget
  obtain rfl : Value.int 12 = layer := Except.ok.inj hlayer
  exact ⟨hstored, hcheck, hchanged, hagain⟩

end ConfigSchema.Element
