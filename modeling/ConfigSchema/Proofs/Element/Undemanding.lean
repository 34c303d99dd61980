import ConfigSchema.Proofs.Element.Default
import ConfigSchema.Proofs.Element.Merge

/-!
# What a layer does not ask for

A layer leaves open what is required, and fills in no defaults. So a schema with neither validates
layers in the same way, with one exception: the last step of a required element is run on null.

## Main definitions

- `Element.mapInfo` — the element with other declarations, in all its parts
- `Info.undemanding` — the declarations without what is required and without a default
- `Info.eased` — the same, but what is required remains where there is a last step
- `Info.LayersAlike` — validation of layers does not tell two declarations apart
- `Element.Alike` — nor the declarations of any part from the other ones

## Main statements

- `Element.validateAt_layer_mapInfo` — declarations that layers do not tell apart give the same
- `Element.validate_layer_undemanding` — layers ask neither for what is required nor for defaults
- `Element.validate_layer_required` — but for the last step of a required element
-/

namespace ConfigSchema

/-! ## Other declarations -/

namespace Info

/-- The declarations without what is required and without a default. -/
def undemanding (info : Info) : Info := { info with required := false, default? := none }

/-- The declarations without a default, where a value is required only for the last step. -/
def eased (info : Info) : Info :=
  { info with required := info.required && info.finish?.isSome, default? := none }

/-- The last step of the element, if there is one, leaves null as it is. -/
def KeepsNull (info : Info) : Prop :=
  ∀ step, info.finish? = some step → ∀ siblings, step siblings .null = .ok .null

/-- Validation of layers does not tell the declarations apart. -/
structure LayersAlike (info other : Info) : Prop where
  name? : other.name? = info.name?
  choices : other.choices = info.choices
  min? : other.min? = info.min?
  max? : other.max? = info.max?
  keyCase : other.keyCase = info.keyCase
  finish? : other.finish? = info.finish?
  required : other.required = info.required ∨ info.KeepsNull

theorem layersAlike_eased (info : Info) : info.LayersAlike info.eased where
  name? := rfl
  choices := rfl
  min? := rfl
  max? := rfl
  keyCase := rfl
  finish? := rfl
  required := by
    cases hfinish : info.finish? with
    | none => exact .inr fun step hstep => by rw [hfinish] at hstep; cases hstep
    | some step => exact .inl (by simp [eased, hfinish])

theorem layersAlike_undemanding {info : Info} (h : info.required → info.KeepsNull) :
    info.LayersAlike info.undemanding where
  name? := rfl
  choices := rfl
  min? := rfl
  max? := rfl
  keyCase := rfl
  finish? := rfl
  required := by
    cases hrequired : info.required with
    | false => exact .inl rfl
    | true => exact .inr (h hrequired)

end Info

namespace Element

mutual

/-- The element with other declarations, in all its parts. -/
def mapInfo (f : Info → Info) : Element → Element
  | scalar info type => scalar (f info) type
  | code info => code (f info)
  | keyed info children extraKeys => keyed (f info) (mapInfos f children) extraKeys
  | category info item minEntries defaultKey? =>
      category (f info) (item.mapInfo f) minEntries defaultKey?
  | list info item minLength? maxLength? => list (f info) (item.mapInfo f) minLength? maxLength?
  | derived info resolve => derived (f info) resolve
termination_by structural element => element

/-- The elements with other declarations, in all their parts. -/
def mapInfos (f : Info → Info) : List Element → List Element
  | [] => []
  | child :: rest => child.mapInfo f :: mapInfos f rest
termination_by structural children => children

end

variable {f : Info → Info}

theorem mapInfos_eq_map (children : List Element) :
    mapInfos f children = children.map (·.mapInfo f) := by
  induction children with
  | nil => rfl
  | cons child rest ih => rw [mapInfos, List.map_cons, ih]

@[simp] theorem info_mapInfo (element : Element) : (element.mapInfo f).info = f element.info := by
  cases element <;> rfl

@[simp] theorem isDerived_mapInfo (element : Element) :
    (element.mapInfo f).isDerived = element.isDerived := by
  cases element <;> rfl

@[simp] theorem isList_mapInfo (element : Element) :
    (element.mapInfo f).isList = element.isList := by
  cases element <;> rfl

@[simp] theorem holdsFields_mapInfo (element : Element) :
    (element.mapInfo f).holdsFields = element.holdsFields := by
  cases element <;> rfl

/-! ## What does not depend on them -/

/-- The element under a key is the same one, as names are kept. -/
theorem isNamed_mapInfo {element : Element} (h : element.info.LayersAlike (f element.info))
    (key : String) : (element.mapInfo f).isNamed key = element.isNamed key := by
  rw [isNamed, info_mapInfo, h.name?, isNamed]

theorem key_mapInfo {element : Element} (h : element.info.LayersAlike (f element.info)) :
    (element.mapInfo f).key = element.key := by
  rw [key, info_mapInfo, h.name?, key]

/-- A last step that is run in one case only is run on null, and keeps it. -/
theorem finish_mapInfo {element : Element} (h : element.info.LayersAlike (f element.info))
    (siblings value : Value) (path : String) :
    (element.mapInfo f).finish siblings value path = element.finish siblings value path := by
  rw [finish, finish, info_mapInfo, h.finish?]
  cases hstep : element.info.finish? with
  | none => rfl
  | some step =>
    rcases h.required with hrequired | hnull
    · rw [hrequired]
    · cases value with
      | null => simp [hnull step hstep siblings]
      | _ => simp [Value.isNull]

/-- Layers do not tell the declarations of any part apart from the other ones. -/
abbrev Alike (f : Info → Info) (element : Element) : Prop :=
  element.Everywhere fun part => part.info.LayersAlike (f part.info)

variable {info : Info} {children : List Element}

theorem any_isNamed_mapInfos (h : ∀ child ∈ children, child.Alike f) (key : String) :
    (mapInfos f children).any (·.isNamed key) = children.any (·.isNamed key) := by
  induction children with
  | nil => rfl
  | cons child rest ih =>
    have hrest := ih fun other hother => h other (List.mem_cons_of_mem _ hother)
    rw [mapInfos, List.any_cons, List.any_cons, hrest,
      isNamed_mapInfo (h child List.mem_cons_self).self]

theorem undeclaredEntries_mapInfos (h : ∀ child ∈ children, child.Alike f) (extraKeys : Bool)
    (path : String) (entries : List (String × Value)) :
    undeclaredEntries (mapInfos f children) extraKeys path entries =
      undeclaredEntries children extraKeys path entries := by
  induction entries with
  | nil => rfl
  | cons entry rest ih =>
    rw [undeclaredEntries, undeclaredEntries, ih, any_isNamed_mapInfos h]

theorem resolveDerived_mapInfos (h : ∀ child ∈ children, child.Alike f) (path : String)
    (entries : OrderedMap Value) :
    resolveDerived path entries (mapInfos f children) = resolveDerived path entries children := by
  induction children generalizing entries with
  | nil => rfl
  | cons child rest ih =>
    have hrest := ih fun other hother => h other (List.mem_cons_of_mem _ hother)
    have hkey := key_mapInfo (h child List.mem_cons_self).self
    cases child with
    | derived info resolve =>
      rw [mapInfo] at hkey
      simp only [mapInfos, mapInfo, resolveDerived, hkey, hrest]
    | _ => exact hrest entries

theorem finishEntry_mapInfo {element : Element} (h : element.Alike f) (path : String)
    (fields : OrderedMap Value) (key : String) :
    (element.mapInfo f).finishEntry path fields key = element.finishEntry path fields key := by
  rw [finishEntry, finishEntry, finish_mapInfo h.self]

theorem finishChildren_mapInfos (h : ∀ child ∈ children, child.Alike f) (path : String)
    (fields : OrderedMap Value) :
    finishChildren path (mapInfos f children) fields = finishChildren path children fields := by
  rw [finishChildren, finishChildren]
  refine Outcome.foldlM_congr ?_ fields
  induction children with
  | nil => exact .nil
  | cons child rest ih =>
    have hchild := h child List.mem_cons_self
    refine .cons (fun fields => ?_) (ih fun other hother => h other (List.mem_cons_of_mem _ hother))
    rw [finishEntry_mapInfo hchild, key_mapInfo hchild.self]

theorem finishEntries_mapInfo {item : Element} (h : item.Alike f) (path : String)
    (fields : OrderedMap Value) :
    (item.mapInfo f).finishEntries path fields = item.finishEntries path fields := by
  simp only [finishEntries, finishEntry_mapInfo h]

theorem finishItems_mapInfo {item : Element} (h : item.Alike f) (path : String)
    (items : List Value) :
    (item.mapInfo f).finishItems path items = item.finishItems path items := by
  simp only [finishItems, finish_mapInfo h.self]

theorem mergeChild_mapInfos (h : ∀ child ∈ children, child.Alike f)
    (hmerge : ∀ child ∈ children, (child.mapInfo f).merge = child.merge) (key : String)
    (base overlay : Value) :
    mergeChild (mapInfos f children) key base overlay = mergeChild children key base overlay := by
  induction children with
  | nil => rfl
  | cons child rest ih =>
    rw [mapInfos, mergeChild, mergeChild, isNamed_mapInfo (h child List.mem_cons_self).self,
      hmerge child List.mem_cons_self,
      ih (fun other hother => h other (List.mem_cons_of_mem _ hother))
        fun other hother => hmerge other (List.mem_cons_of_mem _ hother)]

theorem merge_mapInfo_of_bare {element : Element} (hbare : element.holdsFields = false) :
    (element.mapInfo f).merge = element.merge := by
  have hleaves : ∀ overlay, (element.mapInfo f).Leaves overlay ↔ element.Leaves overlay := by
    intro overlay
    rw [Leaves, Leaves, isList_mapInfo]
  funext base overlay
  by_cases hopen : element.Leaves overlay
  · rw [merge_of_leaves hopen, merge_of_leaves ((hleaves overlay).mpr hopen)]
  · rw [merge_of_not_leaves hbare hopen, merge_of_not_leaves (by rwa [holdsFields_mapInfo])
      (mt (hleaves overlay).mp hopen)]

/-- Values are merged in the same way, as this depends on names alone. -/
theorem merge_mapInfo {element : Element} (h : element.Alike f) :
    (element.mapInfo f).merge = element.merge := by
  induction element using Element.induction with
  | keyed info children extraKeys ih =>
    have hbelow : mergeChild (mapInfos f children) = mergeChild children := by
      funext key base overlay
      exact mergeChild_mapInfos (fun child hchild => h.child hchild)
        (fun child hchild => ih child hchild (h.child hchild)) key base overlay
    funext base overlay
    cases overlay with
    | map overlay =>
      cases base with
      | map base => rw [mapInfo, merge, merge, hbelow]
      | _ => rfl
    | seq items => cases items <;> cases base <;> rfl
    | _ => cases base <;> rfl
  | category info item minEntries defaultKey? ih =>
    funext base overlay
    cases overlay with
    | map overlay =>
      cases base with
      | map base => rw [mapInfo, merge, merge, ih h.entry]
      | _ => rfl
    | seq items => cases items <;> cases base <;> rfl
    | _ => cases base <;> rfl
  | _ => exact merge_mapInfo_of_bare rfl

/-! ## Layers -/

theorem foldKeys_mapInfo (h : info.LayersAlike (f info)) (path : String)
    (fields : OrderedMap Value) : (f info).foldKeys path fields = info.foldKeys path fields := by
  rw [Info.foldKeys, Info.foldKeys, h.keyCase]

/-- A scalar or a code block that is there is read without what layers leave open. -/
theorem validateScalar_mapInfo (h : info.LayersAlike (f info)) (type : ScalarType) (path : String)
    {value : Value} (hvalue : value.isNull = false) :
    (f info).validateScalar type path value = info.validateScalar type path value := by
  have hchoices : (f info).checkChoices = info.checkChoices := by
    funext path value
    rw [Info.checkChoices, Info.checkChoices, h.choices]
  have hrange : (f info).checkRange = info.checkRange := by
    funext path value
    rw [Info.checkRange, Info.checkRange, h.min?, h.max?]
  rw [Info.validateScalar, Info.validateScalar, hvalue, hchoices, hrange]
  rfl

theorem validateCode_mapInfo (path : String) {value : Value} (hvalue : value.isNull = false) :
    (f info).validateCode path value = info.validateCode path value := by
  cases value with
  | null => cases hvalue
  | _ => rfl

theorem validateChildren_mapInfos (h : ∀ child ∈ children, child.Alike f)
    (hvalid : ∀ child ∈ children, ∀ path value,
      (child.mapInfo f).validateAt .layer path value = child.validateAt .layer path value)
    (path : String) (fields : OrderedMap Value) :
    validateChildren (mapInfos f children) .layer path fields =
      validateChildren children .layer path fields := by
  induction children with
  | nil => rfl
  | cons child rest ih =>
    rw [mapInfos, validateChildren, validateChildren, isDerived_mapInfo,
      key_mapInfo (h child List.mem_cons_self).self, hvalid child List.mem_cons_self,
      ih (fun other hother => h other (List.mem_cons_of_mem _ hother))
        fun other hother => hvalid other (List.mem_cons_of_mem _ hother)]

/-- Elements agree on a layer if they agree where it is not null. -/
theorem validateAt_layer_eq {element other : Element} {path : String} {value : Value}
    (h : Mode.layer.Reads value →
      other.validateAt .layer path value = element.validateAt .layer path value) :
    other.validateAt .layer path value = element.validateAt .layer path value := by
  rcases Mode.reads_or .layer value with hreads | ⟨-, rfl⟩
  · exact h hreads
  · rw [validateAt_layer_null, validateAt_layer_null]

theorem sectionFields_mapInfo (h : info.LayersAlike (f info)) (path : String) {value : Value}
    (hvalue : value.isNull = false) :
    (f info).sectionFields path value = info.sectionFields path value := by
  cases value with
  | null => cases hvalue
  | map fields => exact foldKeys_mapInfo h path fields
  | _ => rfl

theorem categoryFields_mapInfo (h : info.LayersAlike (f info)) (path : String) {value : Value}
    (hvalue : value.isNull = false) :
    (f info).categoryFields path value = info.categoryFields path value := by
  cases value with
  | null => cases hvalue
  | map fields => exact foldKeys_mapInfo h path fields
  | _ => rfl

theorem listItems_mapInfo (item : Element) (path : String) {value : Value}
    (hvalue : value.isNull = false) :
    (f info).listItems (item.mapInfo f) path value = info.listItems item path value := by
  cases value with
  | null => cases hvalue
  | seq items => rfl
  | _ => simp only [Info.listItems, isList_mapInfo]

/-- Declarations that layers do not tell apart give the same: the same layer, or the same
failure. -/
theorem validateAt_layer_mapInfo {element : Element} (h : element.Alike f) (path : String)
    (value : Value) :
    (element.mapInfo f).validateAt .layer path value = element.validateAt .layer path value := by
  induction element using Element.induction generalizing path value with
  | scalar info type =>
    refine validateAt_layer_eq fun hreads => ?_
    rw [mapInfo, validateAt_scalar hreads, validateAt_scalar hreads]
    exact validateScalar_mapInfo h.self type path hreads.not_skipped
  | code info =>
    refine validateAt_layer_eq fun hreads => ?_
    rw [mapInfo, validateAt_code hreads, validateAt_code hreads]
    exact validateCode_mapInfo path hreads.not_skipped
  | keyed info children extraKeys ih =>
    refine validateAt_layer_eq fun hreads => ?_
    have hself : info.LayersAlike (f info) := h.self
    have hchildren : ∀ child ∈ children, child.Alike f := fun child hchild => h.child hchild
    rw [mapInfo, validateAt_keyed hreads, validateAt_keyed hreads,
      sectionFields_mapInfo hself path hreads.not_skipped]
    simp only [undeclaredEntries_mapInfos hchildren, resolveDerived_mapInfos hchildren,
      finishChildren_mapInfos hchildren,
      validateChildren_mapInfos hchildren fun child hchild => ih child hchild (h.child hchild)]
  | category info item minEntries defaultKey? ih =>
    refine validateAt_layer_eq fun hreads => ?_
    have hself : info.LayersAlike (f info) := h.self
    have hentry : ∀ shared?, addEntry (f info) (item.mapInfo f) .layer path shared? =
        addEntry info item .layer path shared? := by
      intro shared?
      funext out entry
      simp only [addEntry, Info.checkKey, hself.choices, ih h.entry, merge_mapInfo h.entry]
    rw [mapInfo, validateAt_category hreads, validateAt_category hreads,
      categoryFields_mapInfo hself path hreads.not_skipped]
    simp only [ih h.entry, hentry, finishEntries_mapInfo h.entry]
    rfl
  | list info item minLength? maxLength? ih =>
    refine validateAt_layer_eq fun hreads => ?_
    rw [mapInfo, validateAt_list hreads, validateAt_list hreads,
      listItems_mapInfo item path hreads.not_skipped]
    simp only [ih h.item, finishItems_mapInfo h.item]
    simp
  | derived info resolve =>
    refine validateAt_layer_eq fun hreads => ?_
    rw [mapInfo, validateAt.eq_def, validateAt.eq_def]

/-- Elements that are the same but for what is required and for defaults validate layers alike. -/
theorem validateAt_layer_congr {element other : Element}
    (h : other.mapInfo Info.eased = element.mapInfo Info.eased) (path : String) (value : Value) :
    other.validateAt .layer path value = element.validateAt .layer path value := by
  have heased : ∀ schema : Element, schema.Alike Info.eased :=
    fun _ part _ => part.info.layersAlike_eased
  calc other.validateAt .layer path value
      = (other.mapInfo Info.eased).validateAt .layer path value :=
        (validateAt_layer_mapInfo (heased other) path value).symm
    _ = (element.mapInfo Info.eased).validateAt .layer path value := by rw [h]
    _ = element.validateAt .layer path value := validateAt_layer_mapInfo (heased element) path value

theorem validate_layer_mapInfo {schema : Element} (h : schema.Alike f) (value : Value) :
    (schema.mapInfo f).validate .layer value = schema.validate .layer value := by
  rw [validate, validate, validateAt_layer_mapInfo h]
  exact bind_congr fun valid => finish_mapInfo h.self .null valid ""

/-- Layers ask neither for what is required nor for defaults: without either the outcome is the
same, failures included. Only where there is a last step it counts whether a value is required, as
the step is run on null then; where it keeps null, this makes no difference. -/
theorem validate_layer_undemanding (schema : Element) (value : Value) :
    schema.validate .layer value = (schema.mapInfo Info.eased).validate .layer value ∧
      ((schema.Everywhere fun part => part.info.required → part.info.KeepsNull) →
        schema.validate .layer value =
          (schema.mapInfo Info.undemanding).validate .layer value) := by
  constructor
  · have h : schema.Alike Info.eased := fun part _ => Info.layersAlike_eased part.info
    exact (validate_layer_mapInfo h value).symm
  · intro hkeeps
    have h : schema.Alike Info.undemanding := hkeeps.imp fun part => Info.layersAlike_undemanding
    exact (validate_layer_mapInfo h value).symm

/-- A pair whose required number is doubled by a last step, unless it is absent. -/
def doublingPair : Element :=
  let double : Value → Value → Except String Value := fun _ value =>
    match value with
    | .int number => .ok (.int (2 * number))
    | value => .ok value
  keyed {} [
    scalar { name? := some "a", required := true, finish? := some double } .int,
    scalar { name? := some "b", default? := some (.int 5) } .int] false

/-- The layer of a pair without its required number is the same where nothing is required. -/
theorem validate_layer_doublingPair :
    (doublingPair.mapInfo Info.undemanding).validate .layer (.map ⟨[("b", .int 1)]⟩) =
      .ok (.map ⟨[("a", .null), ("b", .int 1)]⟩) := by
  have hkeeps : doublingPair.Everywhere fun part => part.info.required → part.info.KeepsNull := by
    simp [doublingPair, Everywhere.keyed_iff, Everywhere.scalar_iff, Info.KeepsNull, info]
  rw [← (validate_layer_undemanding doublingPair _).2 hkeeps]
  rfl

/-- A number that is required, and a last step that refuses null. -/
def demandingNumber : Element :=
  scalar
    { required := true
      finish? := some fun _ value => if value.isNull then .error "no number" else .ok value } .int

/-- A layer may be refused although nothing is wrong with it but that a required value is absent. -/
theorem validate_layer_required :
    ¬∀ (schema : Element) (value : Value), schema.check = .ok () →
      schema.validate .layer value =
        (schema.mapInfo Info.undemanding).validate .layer value := by
  intro h
  have hrefused : demandingNumber.validate .layer .null =
      .error (.invalid "" (.unfinished "no number")) := rfl
  have hvalid : (demandingNumber.mapInfo Info.undemanding).validate .layer .null = .ok .null := rfl
  have heq := h demandingNumber .null rfl
  rw [hrefused, hvalid] at heq
  cases heq

end Element

end ConfigSchema
