import ConfigSchema.Proofs.Element.Default
import ConfigSchema.Proofs.Element.Derived

/-!
# Elements in a place of their own

What an element makes of a value does not depend on where the element stands. As the only child of a
section, as the item of a list or as an entry of a category it accepts the same values and gives the
same valid forms, and its failures name the same places, seen from further above.

Paths are texts with dots between the keys, so that an empty key at the root of a document leaves no
trace. Hence no key may be empty.

## Main definitions

- `Path.under`, `Failure.under` — a path, and a failure, seen from above the element
- `Value.WithoutEmptyKeys` — no key in a value is empty
- `Element.WithoutEmptyKeys` — no key that an element declares is empty
- `Element.Relocates` — the element validates values further down in the same way
- `Element.named` — the element under another name

## Main statements

- `Element.validateAt_under` — validation at a path further down fails further down
- `Element.validate_nested` — validation inside a section, a list or a category
-/

namespace ConfigSchema

/-! ## Paths seen from above -/

/-- A path of an element that stands under `segment`. The element itself has the segment alone. -/
def Path.under (segment path : String) : String :=
  if path.isEmpty then segment else segment ++ "." ++ path

/-- A failure of an element that stands under `segment`. -/
def Failure.under (segment : String) : Failure → Failure
  | .missing path => .missing (Path.under segment path)
  | .unknown path => .unknown (Path.under segment path)
  | .invalid path fault => .invalid (Path.under segment path) fault
  | .schema path fault => .schema (Path.under segment path) fault
  | .unresolved path fault => .unresolved (Path.under segment path) fault
  | .parse fault => .parse fault
  | .decode fault => .decode fault
  | .stream fault => .stream fault

namespace Path

@[simp] theorem join_root (key : String) : join "" key = key := rfl

theorem join_ne_empty {path key : String} (h : key ≠ "") : join path key ≠ "" := by
  rw [join]
  split
  · exact h
  · simp

/-- Steps down and steps up do not interfere, as neither key is empty. -/
theorem join_under {segment key : String} (hsegment : segment ≠ "") (hkey : key ≠ "")
    (path : String) : join (under segment path) key = under segment (join path key) := by
  have hjoined : (join path key).isEmpty = false := by simpa using join_ne_empty hkey
  rw [under.eq_def segment (join path key), hjoined, if_neg Bool.false_ne_true]
  by_cases hpath : path = ""
  · subst hpath
    simp [under, join, hsegment]
  · simp [under, join, hpath, String.append_assoc]

end Path

theorem Failure.path?_under (failure : Failure) (segment : String) :
    (failure.under segment).path? = failure.path?.map (Path.under segment) := by
  cases failure <;> rfl

/-! ## Keys that are not empty -/

namespace Text

/-- No character is left out of a text in another case. -/
theorem mapCase_ne_nil {runs : List CaseRun} {expansions : List (Nat × List Nat)}
    (h : ∀ expansion ∈ expansions, expansion.2 ≠ []) (c : Char) :
    mapCase runs expansions c ≠ [] := by
  rw [mapCase]
  split
  · simp
  · split
    · rename_i codes hcodes
      obtain ⟨before, after, rfl, -⟩ := List.lookup_eq_some_iff.mp hcodes
      have hne := h (c.toNat, codes) (by simp)
      simpa using hne
    · simp

theorem toLower_ne_empty {text : String} (h : text ≠ "") : toLower text ≠ "" := by
  have hlist : text.toList ≠ [] := by simpa using h
  obtain ⟨c, cs, hcs⟩ := List.exists_cons_of_ne_nil hlist
  have hfirst : lowerFrom [] (c :: cs) ≠ [] := by
    rw [lowerFrom]
    split
    · simp
    · simp [lowerChar, mapCase_ne_nil (show ∀ expansion ∈ lowerExpansions, expansion.2 ≠ [] by
        decide +kernel) c]
  rw [toLower, hcs]
  simpa using hfirst

theorem toUpper_ne_empty {text : String} (h : text ≠ "") : toUpper text ≠ "" := by
  have hlist : text.toList ≠ [] := by simpa using h
  obtain ⟨c, cs, hcs⟩ := List.exists_cons_of_ne_nil hlist
  have hfirst : upperChar c ≠ [] :=
    mapCase_ne_nil (show ∀ expansion ∈ upperExpansions, expansion.2 ≠ [] by decide +kernel) c
  rw [toUpper, hcs]
  simp [hfirst]

end Text

theorem KeyCase.apply_ne_empty {key : String} (h : key ≠ "") (keyCase : KeyCase) :
    keyCase.apply key ≠ "" := by
  cases keyCase with
  | mixed => exact h
  | lower => exact Text.toLower_ne_empty h
  | upper => exact Text.toUpper_ne_empty h

theorem toString_ne_empty (index : Nat) : toString index ≠ "" := by
  intro hempty
  have hdigits : (toString index).toList = Nat.toDigits 10 index := Nat.toList_repr
  rw [hempty] at hdigits
  exact Nat.toDigits_ne_nil hdigits.symm

namespace Value

/-- No key of the value itself is empty. -/
def NoEmptyKey : Value → Prop
  | map fields => "" ∉ fields.keys
  | _ => True

/-- No key anywhere in the value is empty. -/
def WithoutEmptyKeys (value : Value) : Prop := value.Everywhere NoEmptyKey

namespace WithoutEmptyKeys

theorem map_iff {fields : OrderedMap Value} :
    (Value.map fields).WithoutEmptyKeys ↔
      ∀ entry ∈ fields.entries, entry.1 ≠ "" ∧ entry.2.WithoutEmptyKeys := by
  rw [WithoutEmptyKeys, Everywhere.map_iff, NoEmptyKey, OrderedMap.keys]
  constructor
  · rintro ⟨hkeys, hvalues⟩ entry hentry
    refine ⟨fun hempty => hkeys ?_, hvalues entry hentry⟩
    rw [← hempty]
    exact List.mem_map_of_mem hentry
  · intro h
    refine ⟨fun hmem => ?_, fun entry hentry => (h entry hentry).2⟩
    obtain ⟨entry, hentry, hempty⟩ := List.mem_map.mp hmem
    exact (h entry hentry).1 hempty

theorem null : Value.null.WithoutEmptyKeys := Everywhere.of_scalar trivial (by simp) (by simp)

theorem emptyMap : (Value.map .empty).WithoutEmptyKeys := map_iff.mpr (by simp [OrderedMap.empty])

theorem key_ne_empty {fields : OrderedMap Value} (h : (Value.map fields).WithoutEmptyKeys)
    {key : String} (hkey : key ∈ fields.keys) : key ≠ "" := by
  obtain ⟨entry, hentry, rfl⟩ := List.mem_map.mp hkey
  exact (map_iff.mp h entry hentry).1

/-- What is under a name, or null. -/
theorem getD {fields : OrderedMap Value} (h : (Value.map fields).WithoutEmptyKeys)
    (name : String) : ((fields.get? name).getD .null).WithoutEmptyKeys := by
  cases hget : fields.get? name with
  | none => exact null
  | some value => exact (map_iff.mp h _ (OrderedMap.mem_of_lookup hget)).2

theorem foldKeys {info : Info} {path : String} {raw fields : OrderedMap Value}
    (h : (Value.map raw).WithoutEmptyKeys) (hfields : info.foldKeys path raw = .ok fields) :
    (Value.map fields).WithoutEmptyKeys := by
  obtain rfl := Info.eq_of_foldKeys hfields
  refine map_iff.mpr fun entry hentry => ?_
  obtain ⟨given, hgiven, rfl⟩ := List.mem_map.mp hentry
  obtain ⟨hkey, hvalue⟩ := map_iff.mp h given hgiven
  exact ⟨KeyCase.apply_ne_empty hkey _, hvalue⟩

/-- The fields of a default that is no mapping are none. -/
theorem asMap {value : Value} (h : value.WithoutEmptyKeys) :
    (Value.map (value.asMap?.getD .empty)).WithoutEmptyKeys := by
  cases value with
  | map fields => exact h
  | _ => exact emptyMap

theorem withShared {shared? : Option (OrderedMap Value)} {value : Value}
    (hshared : ∀ shared, shared? = some shared → (Value.map shared).WithoutEmptyKeys)
    (hvalue : value.WithoutEmptyKeys) :
    (ConfigSchema.withShared shared? value).WithoutEmptyKeys := by
  cases shared? with
  | none => exact hvalue
  | some shared =>
    have hbase := hshared shared rfl
    cases value with
    | null => exact hbase
    | map fields =>
      refine map_iff.mpr fun entry hentry => ⟨?_, ?_⟩
      · rcases OrderedMap.mem_keys_of_insertMany (List.mem_map_of_mem hentry) with hold | hnew
        · exact key_ne_empty hbase hold
        · exact key_ne_empty hvalue hnew
      · rcases OrderedMap.mem_insertMany hentry with hold | ⟨key, hkey⟩
        · exact (map_iff.mp hbase _ hold).2
        · exact (map_iff.mp hvalue _ hkey).2
    | _ => exact hvalue

end WithoutEmptyKeys

end Value

/-- No key that the element declares is empty: neither in its default nor as the key of shared
defaults. -/
structure Element.WithoutEmptyKeys (element : Element) : Prop where
  default : ∀ default, element.info.default? = some default → default.WithoutEmptyKeys
  defaultKey : ∀ info item minEntries defaultKey,
    element = .category info item minEntries (some defaultKey) → defaultKey ≠ ""

theorem Element.WithoutEmptyKeys.of_default_eq_none {element : Element}
    (hdefault : element.info.default? = none)
    (hkey : ∀ info item minEntries defaultKey,
      element = .category info item minEntries (some defaultKey) → defaultKey ≠ "") :
    element.WithoutEmptyKeys where
  default default h := by rw [hdefault] at h; cases h
  defaultKey := hkey

/-! ## Steps of validation -/

section

open Outcome (Relays)

variable {info : Info} {segment : String}

theorem Info.absent_under (path : String) :
    Relays (.under segment) (info.absent path) (info.absent (Path.under segment path)) := by
  unfold Info.absent
  split
  · exact .ok _
  · split
    · exact .error _
    · exact .ok _

theorem ScalarType.convert_under (type : ScalarType) (path : String) (value : Value) :
    Relays (.under segment) (type.convert path value)
      (type.convert (Path.under segment path) value) := by
  unfold ScalarType.convert
  dsimp only
  split <;> (try split) <;> (try split) <;> first | exact .ok _ | exact .error _

theorem Info.checkChoices_under (path : String) (value : Value) :
    Relays (.under segment) (info.checkChoices path value)
      (info.checkChoices (Path.under segment path) value) := by
  unfold Info.checkChoices
  split
  · exact .ok _
  · exact .error _

theorem Info.checkRange_under (path : String) (value : Value) :
    Relays (.under segment) (info.checkRange path value)
      (info.checkRange (Path.under segment path) value) := by
  unfold Info.checkRange
  dsimp only
  split
  · exact .ok _
  · split
    · exact .error _
    · split
      · exact .error _
      · exact .error _
      · exact .ok _

theorem Info.validateScalar_under (type : ScalarType) (path : String) (value : Value) :
    Relays (.under segment) (info.validateScalar type path value)
      (info.validateScalar type (Path.under segment path) value) := by
  unfold Info.validateScalar
  split
  · exact info.absent_under path
  · refine (type.convert_under path value).bind fun converted _ => ?_
    refine (info.checkChoices_under path converted).bind fun _ _ => ?_
    exact (info.checkRange_under path converted).bind fun _ _ => .ok _

theorem Info.codeLine_under (path : String) (line : Value) :
    Relays (.under segment) (Info.codeLine path line)
      (Info.codeLine (Path.under segment path) line) := by
  cases line with
  | seq items => exact .error _
  | map fields => exact .error _
  | _ => exact .ok _

theorem Info.codeLines_under (hsegment : segment ≠ "") (path : String) (index : Nat)
    (lines : List Value) :
    Relays (.under segment) (Info.codeLines path index lines)
      (Info.codeLines (Path.under segment path) index lines) := by
  induction lines generalizing index with
  | nil => exact .ok []
  | cons line rest ih =>
    rw [Info.codeLines, Info.codeLines, Path.join_under hsegment (toString_ne_empty index)]
    refine (Info.codeLine_under _ line).bind fun line? _ => ?_
    exact (ih (index + 1)).bind fun _ _ => .ok _

theorem Info.validateCode_under (hsegment : segment ≠ "") (path : String) (value : Value) :
    Relays (.under segment) (info.validateCode path value)
      (info.validateCode (Path.under segment path) value) := by
  cases value with
  | null => exact info.absent_under path
  | seq items => exact (Info.codeLines_under hsegment path 0 items).bind fun _ _ => .ok _
  | map fields => exact .error _
  | _ => exact .ok _

theorem foldEntries_under (hsegment : segment ≠ "") (keyCase : KeyCase) (path : String)
    (out : OrderedMap Value) {entries : List (String × Value)}
    (hentries : ∀ entry ∈ entries, entry.1 ≠ "") :
    Relays (.under segment) (foldEntries keyCase path out entries)
      (foldEntries keyCase (Path.under segment path) out entries) := by
  induction entries generalizing out with
  | nil => exact .ok out
  | cons entry rest ih =>
    obtain ⟨key, value⟩ := entry
    have hkey : keyCase.apply key ≠ "" :=
      KeyCase.apply_ne_empty (hentries (key, value) List.mem_cons_self) keyCase
    simp only [foldEntries, Path.join_under hsegment hkey]
    split
    · exact .error _
    · exact ih _ fun other hother => hentries other (List.mem_cons_of_mem _ hother)

theorem Info.foldKeys_under (hsegment : segment ≠ "") (path : String) {fields : OrderedMap Value}
    (hfields : (Value.map fields).WithoutEmptyKeys) :
    Relays (.under segment) (info.foldKeys path fields)
      (info.foldKeys (Path.under segment path) fields) := by
  unfold Info.foldKeys
  split
  · exact .ok fields
  · exact foldEntries_under hsegment _ path .empty fun entry hentry =>
      (Value.WithoutEmptyKeys.map_iff.mp hfields entry hentry).1

theorem Info.sectionFields_under (hsegment : segment ≠ "") (path : String) {value : Value}
    (hvalue : value.WithoutEmptyKeys) :
    Relays (.under segment) (info.sectionFields path value)
      (info.sectionFields (Path.under segment path) value) := by
  cases value with
  | null => exact (info.absent_under path).bind fun _ _ => .ok _
  | map fields => exact info.foldKeys_under hsegment path hvalue
  | _ => exact .error _

theorem Info.categoryFields_under (hsegment : segment ≠ "") (path : String) {value : Value}
    (hvalue : value.WithoutEmptyKeys) :
    Relays (.under segment) (info.categoryFields path value)
      (info.categoryFields (Path.under segment path) value) := by
  cases value with
  | null =>
    simp only [Info.categoryFields]
    split
    · exact .error _
    · exact .ok _
  | map fields => exact info.foldKeys_under hsegment path hvalue
  | _ => exact .error _

theorem Info.listItems_under (item : Element) (path : String) (value : Value) :
    Relays (.under segment) (info.listItems item path value)
      (info.listItems item (Path.under segment path) value) := by
  unfold Info.listItems
  split
  · split
    · exact .ok _
    · split
      · exact .error _
      · exact .ok _
  · exact .ok _
  · split
    · exact .error _
    · exact .ok _

theorem Info.checkKey_under (path key : String) :
    Relays (.under segment) (info.checkKey path key)
      (info.checkKey (Path.under segment path) key) := by
  unfold Info.checkKey
  split
  · exact .ok _
  · exact .error _

theorem undeclaredEntries_under (hsegment : segment ≠ "") (children : List Element)
    (extraKeys : Bool) (path : String) {entries : List (String × Value)}
    (hentries : ∀ entry ∈ entries, entry.1 ≠ "") :
    Relays (.under segment) (undeclaredEntries children extraKeys path entries)
      (undeclaredEntries children extraKeys (Path.under segment path) entries) := by
  induction entries with
  | nil => exact .ok []
  | cons entry rest ih =>
    obtain ⟨key, value⟩ := entry
    replace ih := ih fun other hother => hentries other (List.mem_cons_of_mem _ hother)
    have hjoin := Path.join_under hsegment (hentries (key, value) List.mem_cons_self) path
    simp only [undeclaredEntries, hjoin]
    split
    · exact ih
    · split
      · exact ih.bind fun _ _ => .ok _
      · exact .error _

/-- Where a mapping is found under the key of the shared defaults, it is checked there. -/
theorem takeShared_under {check : String → Value → Except Failure Value} (hsegment : segment ≠ "")
    (path : String) {defaultKey? : Option String} (hkey : ∀ key, defaultKey? = some key → key ≠ "")
    {fields : OrderedMap Value}
    (hcheck : ∀ path shared, shared ∈ fields.values → Relays (.under segment) (check path shared)
      (check (Path.under segment path) shared)) :
    Relays (.under segment) (takeShared check path defaultKey? fields)
      (takeShared check (Path.under segment path) defaultKey? fields) := by
  cases defaultKey? with
  | none => exact .ok _
  | some key =>
    simp only [takeShared, Path.join_under hsegment (hkey key rfl)]
    split
    · exact .ok _
    · exact .ok _
    · rename_i shared hshared
      have hmem : Value.map shared ∈ fields.values :=
        List.mem_map_of_mem (OrderedMap.mem_of_lookup hshared)
      exact (hcheck _ _ hmem).bind fun _ _ => .ok _
    · exact .error _

theorem checkLength_under (path : String) (minLength? maxLength? : Option Nat) (size : Nat) :
    Relays (.under segment) (checkLength path minLength? maxLength? size)
      (checkLength (Path.under segment path) minLength? maxLength? size) := by
  unfold checkLength
  split
  · exact .error _
  · exact .error _
  · exact .ok _

theorem resolveDerived_under (hsegment : segment ≠ "") (path : String)
    (entries : OrderedMap Value) {children : List Element}
    (hkeys : ∀ child ∈ children, child.key ≠ "") :
    Relays (.under segment) (resolveDerived path entries children)
      (resolveDerived (Path.under segment path) entries children) := by
  induction children generalizing entries with
  | nil => exact .ok entries
  | cons child rest ih =>
    have hrest : ∀ other ∈ rest, other.key ≠ "" := fun other hother =>
      hkeys other (List.mem_cons_of_mem _ hother)
    cases child with
    | derived info resolve =>
      simp only [resolveDerived, Path.join_under hsegment (hkeys _ List.mem_cons_self)]
      cases resolve entries with
      | ok value => exact ih _ hrest
      | error reason => exact .error _
    | _ => exact ih _ hrest

namespace Element

theorem finish_under (element : Element) (siblings value : Value) (path : String) :
    Relays (.under segment) (element.finish siblings value path)
      (element.finish siblings value (Path.under segment path)) := by
  unfold Element.finish
  split
  · exact .ok _
  · split
    · exact .ok _
    · split
      · exact .ok _
      · exact .error _

theorem finishEntry_under (hsegment : segment ≠ "") (element : Element) (path : String)
    (fields : OrderedMap Value) {key : String} (hkey : key ≠ "") :
    Relays (.under segment) (element.finishEntry path fields key)
      (element.finishEntry (Path.under segment path) fields key) := by
  simp only [finishEntry, Path.join_under hsegment hkey]
  exact (element.finish_under _ _ _).bind fun _ _ => .ok _

theorem finishItems_under (hsegment : segment ≠ "") (item : Element) (path : String)
    (items : List Value) :
    Relays (.under segment) (item.finishItems path items)
      (item.finishItems (Path.under segment path) items) := by
  refine Relays.foldlM (fun index _ items => ?_) items
  rw [Path.join_under hsegment (toString_ne_empty index)]
  exact (item.finish_under _ _ _).bind fun _ _ => .ok _

/-! ## Validation -/

variable {mode : Mode}

/-- The fields that a section is validated from have no empty keys, as its value and its default
have none. -/
theorem WithoutEmptyKeys.sectionFields {children : List Element} {extraKeys : Bool}
    (hkeys : (keyed info children extraKeys).WithoutEmptyKeys) {value : Value}
    (hvalue : value.WithoutEmptyKeys) {path : String} {fields : OrderedMap Value}
    (h : info.sectionFields path value = .ok fields) : (Value.map fields).WithoutEmptyKeys := by
  cases value with
  | null =>
    obtain ⟨default, habsent, h⟩ := Outcome.bind_eq_ok.mp h
    obtain rfl := Outcome.pure_eq_ok.mp h
    rcases Info.absent_eq_ok.mp habsent with hsome | ⟨-, -, rfl⟩
    · exact (hkeys.default default hsome).asMap
    · exact .emptyMap
  | map raw => exact hvalue.foldKeys h
  | _ => cases h

theorem withoutEmptyKeys_categoryFields {value : Value} (hvalue : value.WithoutEmptyKeys)
    {path : String} {fields : OrderedMap Value} (h : info.categoryFields path value = .ok fields) :
    (Value.map fields).WithoutEmptyKeys := by
  cases value with
  | null =>
    rw [Info.eq_empty_of_categoryFields h]
    exact .emptyMap
  | map raw => exact hvalue.foldKeys h
  | _ => cases h

theorem withoutEmptyKeys_takeShared {check : String → Value → Except Failure Value} {path : String}
    {defaultKey? : Option String} {fields others : OrderedMap Value}
    {shared? : Option (OrderedMap Value)} (hfields : (Value.map fields).WithoutEmptyKeys)
    (h : takeShared check path defaultKey? fields = .ok (shared?, others)) :
    (Value.map others).WithoutEmptyKeys ∧
      ∀ shared, shared? = some shared → (Value.map shared).WithoutEmptyKeys := by
  cases defaultKey? with
  | none =>
    obtain ⟨rfl, rfl⟩ := Prod.mk.inj (Except.ok.inj h)
    exact ⟨hfields, by simp⟩
  | some key =>
    have hrest : (Value.map (fields.erase key)).WithoutEmptyKeys :=
      Value.WithoutEmptyKeys.map_iff.mpr fun entry hentry =>
        Value.WithoutEmptyKeys.map_iff.mp hfields entry (List.mem_of_mem_eraseP hentry)
    obtain ⟨rfl, hshared⟩ := takeShared_eq_ok_iff.mp h
    refine ⟨hrest, ?_⟩
    rintro shared rfl
    rcases hshared with ⟨hnone, -⟩ | ⟨found, _, hfound, hget, -⟩
    · cases hnone
    · rw [Option.some.inj hfound]
      exact (Value.WithoutEmptyKeys.map_iff.mp hfields _ (OrderedMap.mem_of_lookup hget)).2

theorem WithoutEmptyKeys.listItems {item : Element} {minLength? maxLength? : Option Nat}
    (hkeys : (list info item minLength? maxLength?).WithoutEmptyKeys) {value : Value}
    (hvalue : value.WithoutEmptyKeys) {path : String} {items : List Value}
    (h : info.listItems item path value = .ok items) : ∀ value ∈ items, value.WithoutEmptyKeys := by
  cases value with
  | null =>
    simp only [Info.listItems] at h
    split at h
    · rename_i default hdefault
      obtain rfl := Except.ok.inj h
      exact fun value hitem => (hkeys.default _ hdefault).of_item hitem
    · split at h
      · cases h
      · obtain rfl := Except.ok.inj h
        simp
  | seq raw =>
    obtain rfl := Except.ok.inj h
    exact fun value hitem => hvalue.of_item hitem
  | _ =>
    simp only [Info.listItems] at h
    split at h
    · cases h
    · obtain rfl := Except.ok.inj h
      simpa using hvalue

/-- The keys of a category that is being validated are those it starts from and those given. -/
theorem WithoutEmptyKeys.key_ne_empty {item : Element} {minEntries : Nat}
    {defaultKey? : Option String}
    (hkeys : (category info item minEntries defaultKey?).WithoutEmptyKeys) {path : String}
    {shared? : Option (OrderedMap Value)} {others entries : OrderedMap Value}
    (hothers : (Value.map others).WithoutEmptyKeys)
    (h : others.entries.foldlM (addEntry info item mode path shared?) (startEntries info mode) =
      .ok entries) {key : String} (hkey : key ∈ entries.keys) : key ≠ "" := by
  have hstart : (Value.map (startEntries info mode)).WithoutEmptyKeys := by
    rw [startEntries]
    split
    · rw [Info.defaultFields]
      cases hdefault : info.default? with
      | none => exact .emptyMap
      | some default => exact (hkeys.default default hdefault).asMap
    · exact .emptyMap
  by_cases hgiven : key ∈ others.keys
  · exact hothers.key_ne_empty hgiven
  · -- nothing was added under the key, so it was there from the start
    have hkept := get?_foldlM_addEntry hgiven h
    rw [← OrderedMap.get?_isSome_iff, hkept, OrderedMap.get?_isSome_iff] at hkey
    exact hstart.key_ne_empty hkey

theorem validateChildren_under (hsegment : segment ≠ "") (path : String)
    {fields : OrderedMap Value} {children : List Element}
    (hnames : ∀ child ∈ children, child.key ≠ "")
    (ih : ∀ child ∈ children, ∀ path, Relays (.under segment)
      (child.validateAt mode path ((fields.get? child.key).getD .null))
      (child.validateAt mode (Path.under segment path) ((fields.get? child.key).getD .null))) :
    Relays (.under segment) (validateChildren children mode path fields)
      (validateChildren children mode (Path.under segment path) fields) := by
  induction children with
  | nil => exact .ok []
  | cons child rest ihrest =>
    replace ihrest := ihrest (fun other hother => hnames other (List.mem_cons_of_mem _ hother))
      fun other hother => ih other (List.mem_cons_of_mem _ hother)
    simp only [validateChildren, Path.join_under hsegment (hnames child List.mem_cons_self)]
    split
    · exact ihrest.bind fun _ _ => .ok _
    · exact (ih child List.mem_cons_self _).bind fun _ _ => ihrest.bind fun _ _ => .ok _

/-- A layer leaves null as it is, wherever it stands. -/
theorem relays_of_reads {element : Element} {path other : String} {value : Value}
    {report : Failure → Failure} (h : mode.Reads value →
      Relays report (element.validateAt mode path value) (element.validateAt mode other value)) :
    Relays report (element.validateAt mode path value) (element.validateAt mode other value) := by
  rcases mode.reads_or value with hreads | ⟨rfl, rfl⟩
  · exact h hreads
  · rw [validateAt_layer_null, validateAt_layer_null]
    exact .ok _

/-- An entry is validated on top of the shared defaults, under its own key. -/
theorem addEntry_under (hsegment : segment ≠ "") (path : String) {item : Element}
    {shared? : Option (OrderedMap Value)} {entry : String × Value} (hkey : entry.1 ≠ "")
    (ih : ∀ path, Relays (.under segment) (item.validateAt mode path (withShared shared? entry.2))
      (item.validateAt mode (Path.under segment path) (withShared shared? entry.2)))
    (out : OrderedMap Value) :
    Relays (.under segment) (addEntry info item mode path shared? out entry)
      (addEntry info item mode (Path.under segment path) shared? out entry) := by
  simp only [addEntry, Path.join_under hsegment hkey]
  refine (info.checkKey_under _ entry.1).bind fun _ _ => ?_
  exact (ih _).bind fun _ _ => .ok _

/-- The element validates values at a path further down in the same way. -/
def Relocates (segment : String) (element : Element) : Prop :=
  ∀ mode path value, value.WithoutEmptyKeys →
    Relays (.under segment) (element.validateAt mode path value)
      (element.validateAt mode (Path.under segment path) value)

theorem relocates_scalar (info : Info) (type : ScalarType) :
    (scalar info type).Relocates segment := by
  intro mode path value _
  refine relays_of_reads fun hreads => ?_
  rw [validateAt_scalar hreads, validateAt_scalar hreads]
  exact info.validateScalar_under type path value

theorem relocates_code (hsegment : segment ≠ "") (info : Info) :
    (code info).Relocates segment := by
  intro mode path value _
  refine relays_of_reads fun hreads => ?_
  rw [validateAt_code hreads, validateAt_code hreads]
  exact info.validateCode_under hsegment path value

theorem relocates_keyed (hsegment : segment ≠ "") {children : List Element} {extraKeys : Bool}
    (hnames : ∀ child ∈ children, child.key ≠ "")
    (hkeys : (keyed info children extraKeys).WithoutEmptyKeys)
    (hchildren : ∀ child ∈ children, child.Relocates segment) :
    (keyed info children extraKeys).Relocates segment := by
  intro mode path value hvalue
  refine relays_of_reads fun hreads => ?_
  rw [validateAt_keyed hreads, validateAt_keyed hreads]
  refine (info.sectionFields_under hsegment path hvalue).bind fun fields hfields => ?_
  have hinside := hkeys.sectionFields hvalue hfields
  refine (undeclaredEntries_under hsegment children extraKeys path fun entry hentry =>
    (Value.WithoutEmptyKeys.map_iff.mp hinside entry hentry).1).bind fun extras _ => ?_
  refine (validateChildren_under hsegment path hnames fun child hchild path =>
    hchildren child hchild mode path _ (hinside.getD child.key)).bind fun entries _ => ?_
  refine (resolveDerived_under hsegment path _ hnames).bind fun derived _ => ?_
  have hfinish := Relays.foldlM (fun child hchild fields =>
    finishEntry_under hsegment child path fields (hnames child hchild))
    (derived.insertMany extras)
  exact hfinish.bind fun _ _ => .ok _

theorem relocates_category (hsegment : segment ≠ "") {item : Element} {minEntries : Nat}
    {defaultKey? : Option String}
    (hkeys : (category info item minEntries defaultKey?).WithoutEmptyKeys)
    (hitem : item.Relocates segment) :
    (category info item minEntries defaultKey?).Relocates segment := by
  intro mode path value hvalue
  refine relays_of_reads fun hreads => ?_
  rw [validateAt_category hreads, validateAt_category hreads]
  refine (info.categoryFields_under hsegment path hvalue).bind fun fields hfields => ?_
  have hinside := withoutEmptyKeys_categoryFields hvalue hfields
  have hdefaultKey : ∀ key, defaultKey? = some key → key ≠ "" := by
    rintro key rfl
    exact hkeys.defaultKey _ _ _ _ rfl
  have hcheck : ∀ path value, value ∈ fields.values →
      Relays (.under segment) (item.validateAt .layer path value)
        (item.validateAt .layer (Path.under segment path) value) := by
    intro path value hmem
    obtain ⟨entry, hentry, rfl⟩ := List.mem_map.mp hmem
    exact hitem .layer path _ (Value.WithoutEmptyKeys.map_iff.mp hinside entry hentry).2
  refine (takeShared_under hsegment path hdefaultKey hcheck).bind fun shared hshared => ?_
  obtain ⟨hothers, hbase⟩ := withoutEmptyKeys_takeShared hinside hshared
  refine (Relays.foldlM (fun entry hentry out => ?_) _).bind fun entries hentries => ?_
  · obtain ⟨hkey, hentry⟩ := Value.WithoutEmptyKeys.map_iff.mp hothers entry hentry
    exact addEntry_under hsegment path hkey
      (fun path => hitem mode path _ (.withShared hbase hentry)) out
  have hfinish := Relays.foldlM (fun key hkey fields =>
    finishEntry_under hsegment item path fields (hkeys.key_ne_empty hothers hentries hkey)) entries
  split
  · exact .error _
  · exact hfinish.bind fun _ _ => .ok _

theorem relocates_list (hsegment : segment ≠ "") {item : Element}
    {minLength? maxLength? : Option Nat}
    (hkeys : (list info item minLength? maxLength?).WithoutEmptyKeys)
    (hitem : item.Relocates segment) :
    (list info item minLength? maxLength?).Relocates segment := by
  intro mode path value hvalue
  refine relays_of_reads fun hreads => ?_
  rw [validateAt_list hreads, validateAt_list hreads]
  refine (info.listItems_under item path value).bind fun items hitems => ?_
  refine (checkLength_under path minLength? maxLength? _).bind fun _ _ => ?_
  refine (Relays.mapM fun entry hentry => ?_).bind fun valid _ => ?_
  · dsimp only
    rw [Path.join_under hsegment (toString_ne_empty entry.2)]
    exact hitem mode _ _
      (hkeys.listItems hvalue hitems _ (List.fst_mem_of_mem_zipIdx hentry))
  · split
    · exact .error _
    · exact (finishItems_under hsegment item path valid).bind fun _ _ => .ok _

/-- On its own a derived element takes no value, wherever it stands. -/
theorem relocates_derived (info : Info) (resolve : OrderedMap Value → Except String Value) :
    (derived info resolve).Relocates segment := by
  intro mode path value _
  refine relays_of_reads fun hreads => ?_
  rw [validateAt.eq_def, validateAt.eq_def]
  dsimp only
  rw [hreads.not_skipped, if_neg Bool.false_ne_true, if_neg Bool.false_ne_true]
  exact .error _

/-- At a path further down an element validates a value in the same way, and its failures name
paths further down. -/
theorem validateAt_under (hsegment : segment ≠ "") {element : Element} (hc : element.Checked)
    (hkeys : element.Everywhere WithoutEmptyKeys) : element.Relocates segment := by
  induction element using Element.induction with
  | scalar info type => exact relocates_scalar info type
  | code info => exact relocates_code hsegment info
  | keyed info children extraKeys ih =>
    exact relocates_keyed hsegment (fun _ hchild => hc.key_ne_empty hchild) hkeys.self
      fun child hchild => ih child hchild (hc.child hchild).2.2 (hkeys.child hchild)
  | category info item minEntries defaultKey? ih =>
    exact relocates_category hsegment hkeys.self (ih hc.entry hkeys.entry)
  | list info item minLength? maxLength? ih =>
    exact relocates_list hsegment hkeys.self (ih hc.item hkeys.item)
  | derived info resolve => exact relocates_derived info resolve

end Element

end

/-! ## Inside a section, a list and a category -/

namespace Element

/-- The element under a name. -/
def named (element : Element) (name : String) : Element :=
  element.withInfo { element.info with name? := some name }

variable {element : Element}

/-- What is valid does not depend on the name of the element. -/
theorem validateAt_named (element : Element) (name : String) (mode : Mode) (path : String)
    (value : Value) : (element.named name).validateAt mode path value =
      element.validateAt mode path value := by
  cases element <;> rw [validateAt.eq_def, validateAt.eq_def] <;> rfl

theorem key_named (element : Element) (name : String) : (element.named name).key = name := by
  cases element <;> rfl

theorem isDerived_named (element : Element) (name : String) :
    (element.named name).isDerived = element.isDerived := by
  cases element <;> rfl

theorem finish_named (h : element.info.finish? = none) (name : String) (siblings value : Value)
    (path : String) : (element.named name).finish siblings value path = .ok value := by
  refine finish_of_unfinished ?_ siblings value path
  cases element <;> exact h

theorem isNamed_named (element : Element) (name : String) :
    (element.named name).isNamed name := by
  cases element <;> simp [named, withInfo, isNamed, info]

/-- The only child of a section is valid under its name exactly as it is on its own. -/
theorem validate_section (hplain : element.isDerived = false)
    (hfinish : element.info.finish? = none) (mode : Mode) (name : String) (value : Value) :
    (keyed {} [element.named name] false).validate mode (.map ⟨[(name, value)]⟩) =
      (element.validateAt mode name value).map fun valid => .map ⟨[(name, valid)]⟩ := by
  have hextras : undeclaredEntries [element.named name] false "" [(name, value)] = .ok [] := by
    simp [undeclaredEntries, isNamed_named]
  have hchildren : validateChildren [element.named name] mode "" ⟨[(name, value)]⟩ =
      (element.validateAt mode name value).map fun valid => [(name, valid)] := by
    have hget : OrderedMap.get? ⟨[(name, value)]⟩ name = some value := by simp [OrderedMap.get?]
    rw [validateChildren, isDerived_named, hplain, if_neg Bool.false_ne_true, validateAt_named,
      key_named, hget, Path.join_root]
    rfl
  rw [validate_of_unfinished rfl, validateAt_keyed (.inr (by simp))]
  have hfields : Info.sectionFields {} "" (.map ⟨[(name, value)]⟩) = .ok ⟨[(name, value)]⟩ := rfl
  rw [hfields, Outcome.ok_bind, hextras, Outcome.ok_bind, hchildren]
  cases element.validateAt mode name value with
  | error failure => rfl
  | ok valid =>
    have hresolve : resolveDerived "" ⟨[(name, valid)]⟩ [element.named name] =
        .ok ⟨[(name, valid)]⟩ := by
      cases element with
      | derived info resolve => cases hplain
      | _ => rfl
    have hlast : finishChildren "" [element.named name] ⟨[(name, valid)]⟩ =
        .ok ⟨[(name, valid)]⟩ :=
      finishChildren_of_finish (by simpa using finish_named hfinish name)
        (by simp [key_named, OrderedMap.keys])
    have hentries : OrderedMap.ofList [(name, valid)] = ⟨[(name, valid)]⟩ := rfl
    simp only [Except.map, Outcome.ok_bind, hentries, hresolve]
    rw [show OrderedMap.insertMany ⟨[(name, valid)]⟩ [] = ⟨[(name, valid)]⟩ from rfl, hlast]
    rfl

/-- The only item of a list is valid at position 0 exactly as it is on its own. -/
theorem validate_singleton (hfinish : element.info.finish? = none) (mode : Mode) (value : Value) :
    (list {} element none none).validate mode (.seq [value]) =
      (element.validateAt mode "0" value).map fun valid => .seq [valid] := by
  have hitems : Info.listItems {} element "" (.seq [value]) = .ok [value] := rfl
  have hlength : checkLength "" none none [value].length = .ok () := rfl
  have hplace : Path.join "" (toString 0) = "0" := rfl
  rw [validate_of_unfinished rfl, validateAt_list (.inr (by simp)), hitems, Outcome.ok_bind,
    hlength, Outcome.ok_bind, List.zipIdx_singleton, List.mapM_cons]
  simp only [hplace, List.mapM_nil]
  cases element.validateAt mode "0" value with
  | error failure => rfl
  | ok valid =>
    have hlast := finishItems_of_finish (finish_of_unfinished hfinish) "" [valid]
    simp [Except.map, hlast]

/-- The only entry of a category is valid under its key exactly as it is on its own. -/
theorem validate_entry (hfinish : element.info.finish? = none) (mode : Mode) (key : String)
    (value : Value) :
    (category {} element 0 none).validate mode (.map ⟨[(key, value)]⟩) =
      (element.validateAt mode key value).map fun valid => .map ⟨[(key, valid)]⟩ := by
  have hfields : Info.categoryFields {} "" (.map ⟨[(key, value)]⟩) = .ok ⟨[(key, value)]⟩ := rfl
  have hentry : [(key, value)].foldlM (addEntry {} element mode "" none) (startEntries {} mode) =
      (element.validateAt mode key value).map fun valid => ⟨[(key, valid)]⟩ := by
    have hplain : withShared none value = value := by cases value <;> rfl
    rw [startEntries_eq_empty fun _ => rfl, List.foldlM_cons, addEntry]
    simp only [hplain, Path.join_root]
    cases element.validateAt mode key value <;> rfl
  rw [validate_of_unfinished rfl, validateAt_category (.inr (by simp)), hfields, Outcome.ok_bind,
    takeShared, Outcome.ok_bind, hentry]
  cases element.validateAt mode key value with
  | error failure => rfl
  | ok valid =>
    have hlast := finishEntries_of_finish (finish_of_unfinished hfinish) "" ⟨[(key, valid)]⟩
    simp [Except.map, hlast]

/-- What an element makes of a value does not depend on where the element stands. Inside a section,
a list or a category it gives the same valid form, in place of the value, or else the same failure,
whose path begins with the place of the element. -/
theorem validate_nested (hcheck : element.check = .ok ()) (hfinish : element.info.finish? = none)
    (hkeys : element.Everywhere WithoutEmptyKeys) (mode : Mode) {value : Value}
    (hvalue : value.WithoutEmptyKeys) {key : String} (hkey : key ≠ "") :
    (keyed {} [element.named key] false).validate mode (.map ⟨[(key, value)]⟩) =
        ((element.validate mode value).map fun valid => .map ⟨[(key, valid)]⟩).mapError
          (.under key) ∧
      (list {} element none none).validate mode (.seq [value]) =
        ((element.validate mode value).map fun valid => .seq [valid]).mapError (.under "0") ∧
      (category {} element 0 none).validate mode (.map ⟨[(key, value)]⟩) =
        ((element.validate mode value).map fun valid => .map ⟨[(key, valid)]⟩).mapError
          (.under key) := by
  have hc : element.Checked := ⟨"", false, hcheck⟩
  have hmoved : ∀ segment ≠ "", ∀ enclose : Value → Value,
      (element.validateAt mode segment value).map enclose =
        ((element.validate mode value).map enclose).mapError (.under segment) := by
    intro segment hsegment enclose
    have hunder : element.validateAt mode segment value =
        (element.validate mode value).mapError (.under segment) := by
      rw [validate_of_unfinished hfinish]
      exact validateAt_under hsegment hc hkeys mode "" value hvalue
    rw [hunder]
    cases element.validate mode value <;> rfl
  rw [validate_section (not_derived_of_checkAt hcheck) hfinish, validate_singleton hfinish,
    validate_entry hfinish]
  exact ⟨hmoved key hkey _, hmoved "0" (by decide) _, hmoved key hkey _⟩

/-- Prices by city, on top of prices for all of them. No city is free of taxes. -/
def prices : Element :=
  .category {} (.keyed {} [
    .scalar { name? := some "net", required := true } .int,
    .scalar
      { name? := some "gross"
        finish? := some fun siblings gross =>
          if siblings.get? "net" == some gross then .error "no tax" else .ok gross } .int] false)
    0 (some "_")

/-- Prices of which only that of Rome is given by itself. -/
def romanPrices (gross : Int64) : Value :=
  .map ⟨[("_", .map ⟨[("net", .int 5)]⟩), ("rome", .map ⟨[("gross", .int gross)]⟩)]⟩

/-- Prices are the same in a section, in a list and in a category, and so is their failure. -/
theorem validate_nested_prices :
    ((list {} prices none none).validate .full (.seq [romanPrices 6]) =
        .ok (.seq [.map ⟨[("rome", .map ⟨[("net", .int 5), ("gross", .int 6)]⟩)]⟩])) ∧
      (keyed {} [prices.named "prices"] false).validate .full
          (.map ⟨[("prices", romanPrices 5)]⟩) =
        .error (.invalid "prices.rome.gross" (.unfinished "no tax")) ∧
      (list {} prices none none).validate .full (.seq [romanPrices 5]) =
        .error (.invalid "0.rome.gross" (.unfinished "no tax")) ∧
      (category {} prices 0 none).validate .full (.map ⟨[("prices", romanPrices 5)]⟩) =
        .error (.invalid "prices.rome.gross" (.unfinished "no tax")) := by
  have hkeys : prices.Everywhere WithoutEmptyKeys := by
    have hcolumn : ∀ info type, info.default? = none →
        (scalar info type).Everywhere WithoutEmptyKeys := fun info type hdefault =>
      Everywhere.scalar_iff.mpr (.of_default_eq_none hdefault (by simp))
    rw [prices, Everywhere.category_iff, Everywhere.keyed_iff]
    refine ⟨.of_default_eq_none rfl ?_, .of_default_eq_none rfl (by simp), ?_⟩
    · rintro _ _ _ _ ⟨⟩
      decide
    · simp [hcolumn]
  have hvalue : ∀ gross, (romanPrices gross).WithoutEmptyKeys := by
    have hnumber : ∀ number, (Value.int number).WithoutEmptyKeys := fun number =>
      .of_scalar trivial (by simp) (by simp)
    intro gross
    simp [romanPrices, Value.WithoutEmptyKeys.map_iff, hnumber]
  have hcheck : prices.check = .ok () := rfl
  have hkey : "prices" ≠ "" := by decide
  obtain ⟨-, hlist, -⟩ := validate_nested hcheck rfl hkeys .full (hvalue 6) hkey
  obtain ⟨hsection, hfailing, hcategory⟩ := validate_nested hcheck rfl hkeys .full (hvalue 5) hkey
  exact ⟨hlist.trans rfl, hsection.trans rfl, hfailing.trans rfl, hcategory.trans rfl⟩

end Element

end ConfigSchema
