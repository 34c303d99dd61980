import ConfigSchema.Proofs.Element.Check
import ConfigSchema.Proofs.OrderedMap

/-!
# The steps of validation

What each step of validation succeeds with: keys brought into a case, entries that nobody declares,
computed entries, and last steps that change nothing.

## Main definitions

- `OrderedMap.Folded` — all keys are in a case already
- `Info.entry?` — the entry of a raw section that has a name once its key is folded

## Main statements

- `Info.foldKeys_eq_ok_iff` — when keys can be brought into a case, and what this gives
- `Info.get?_of_foldKeys` — what is found after folding
- `undeclaredEntries_eq_ok` — the undeclared entries are a sublist of the entries
- `takeShared_eq_ok_iff` — when shared defaults can be taken out, and what is left
- `keys_resolveDerived`, `get?_resolveDerived` — only the computed entries change
-/

namespace ConfigSchema

/-- All keys are in a case already. -/
def OrderedMap.Folded {α : Type} (keyCase : KeyCase) (m : OrderedMap α) : Prop :=
  ∀ key ∈ m.keys, keyCase.apply key = key

/-! ## Keys in a case -/

/-- Entries are added under keys in a case exactly if no two keys become one. -/
theorem foldEntries_eq_ok_iff {keyCase : KeyCase} {path : String} {out result : OrderedMap Value}
    {entries : List (String × Value)} :
    foldEntries keyCase path out entries = .ok result ↔
      (entries.map fun entry => keyCase.apply entry.1).Nodup ∧
        (∀ entry ∈ entries, keyCase.apply entry.1 ∉ out.keys) ∧
        result = ⟨out.entries ++ entries.map (Prod.map keyCase.apply id)⟩ := by
  induction entries generalizing out with
  | nil => simp [foldEntries, eq_comm]
  | cons entry rest ih =>
    obtain ⟨key, value⟩ := entry
    rw [foldEntries]
    by_cases hkey : keyCase.apply key ∈ out.keys
    · rw [if_pos ((out.contains_iff _).mpr hkey)]
      simp [hkey]
    · rw [if_neg (mt (out.contains_iff _).mp hkey), ih, OrderedMap.keys_insert_of_not_mem hkey,
        OrderedMap.insert_of_not_mem hkey]
      simp only [List.map_cons, List.nodup_cons, List.mem_cons, forall_eq_or_imp, hkey,
        not_false_eq_true, true_and, List.append_assoc, List.singleton_append, Prod.map, id,
        List.mem_append, not_or, List.mem_map, not_exists, not_and,
        List.not_mem_nil, or_false, forall_and]
      tauto

/-- What is under a name in a mapping whose keys are renamed. -/
theorem OrderedMap.get?_map_keys {α : Type} (f : String → String) (entries : List (String × α))
    (name : String) :
    (⟨entries.map (Prod.map f id)⟩ : OrderedMap α).get? name =
      (entries.find? fun entry => f entry.1 == name).map Prod.snd := by
  rw [get?]
  induction entries with
  | nil => rfl
  | cons entry rest ih =>
    rw [List.map_cons, Prod.map, List.lookup_cons, List.find?_cons, ih, BEq.comm]
    cases f entry.1 == name <;> rfl

namespace Info

variable {info : Info} {path : String} {raw fields : OrderedMap Value}

/-- Keys are brought into a case where they stand. -/
theorem eq_of_foldKeys (h : info.foldKeys path raw = .ok fields) :
    fields = ⟨raw.entries.map (Prod.map info.keyCase.apply id)⟩ := by
  unfold foldKeys at h
  split at h
  · rename_i hmixed
    have hid : KeyCase.apply .mixed = id := rfl
    rw [hmixed, hid, Prod.map_id, List.map_id, Except.ok.inj h]
  · exact (foldEntries_eq_ok_iff.mp h).2.2

/-- An absent category has no entries. -/
theorem eq_empty_of_categoryFields (h : info.categoryFields path .null = .ok fields) :
    fields = .empty := by
  rw [categoryFields] at h
  split at h
  · cases h
  · exact (Except.ok.inj h).symm

/-- Folding gives folded keys. -/
theorem folded_of_foldKeys (h : info.foldKeys path raw = .ok fields) :
    fields.Folded info.keyCase := by
  intro key hkey
  obtain rfl := eq_of_foldKeys h
  obtain ⟨entry, hentry, rfl⟩ := List.mem_map.mp hkey
  obtain ⟨given, -, rfl⟩ := List.mem_map.mp hentry
  exact info.keyCase.apply_apply given.1

/-- Keys can be brought into a case exactly if no two of them become one. -/
theorem foldKeys_eq_ok_iff (hd : raw.Distinct) :
    info.foldKeys path raw = .ok fields ↔
      (raw.keys.map info.keyCase.apply).Nodup ∧
        fields = ⟨raw.entries.map (Prod.map info.keyCase.apply id)⟩ := by
  have hkeys : raw.keys.map info.keyCase.apply =
      raw.entries.map fun entry => info.keyCase.apply entry.1 := List.map_map ..
  refine ⟨fun h => ⟨?_, eq_of_foldKeys h⟩, ?_⟩
  · unfold foldKeys at h
    split at h
    · rename_i hmixed
      rw [hmixed]
      exact hd.map fun _ _ heq => heq
    · rw [hkeys]
      exact (foldEntries_eq_ok_iff.mp h).1
  · rintro ⟨hnodup, rfl⟩
    unfold foldKeys
    split
    · rename_i hmixed
      have hid : KeyCase.apply .mixed = id := rfl
      rw [hmixed, hid, Prod.map_id, List.map_id]
    · rw [foldEntries_eq_ok_iff, ← hkeys]
      exact ⟨hnodup, by simp [OrderedMap.empty, OrderedMap.keys], by simp [OrderedMap.empty]⟩

/-- Folded keys are kept. -/
theorem foldKeys_of_folded (hd : fields.Distinct) (hfolded : fields.Folded info.keyCase) :
    info.foldKeys path fields = .ok fields := by
  have hkeys : fields.keys.map info.keyCase.apply = fields.keys := by
    conv_rhs => rw [← List.map_id fields.keys]
    exact List.map_congr_left hfolded
  have hentries : fields.entries.map (Prod.map info.keyCase.apply id) = fields.entries := by
    conv_rhs => rw [← List.map_id fields.entries]
    exact List.map_congr_left fun entry hentry =>
      Prod.ext (hfolded entry.1 (List.mem_map_of_mem hentry)) rfl
  refine (foldKeys_eq_ok_iff hd).mpr ⟨?_, by rw [hentries]⟩
  rw [hkeys]
  exact hd

/-- Folding gives folded keys, and keeps the values. -/
theorem foldKeys_eq_ok (h : info.foldKeys path raw = .ok fields) (hd : raw.Distinct) :
    fields.Distinct ∧ fields.Folded info.keyCase ∧
      ∀ entry ∈ fields.entries, ∃ key, (key, entry.2) ∈ raw.entries := by
  obtain ⟨hnodup, rfl⟩ := (foldKeys_eq_ok_iff hd).mp h
  have hkeys : (⟨raw.entries.map (Prod.map info.keyCase.apply id)⟩ : OrderedMap Value).keys =
      raw.keys.map info.keyCase.apply := by
    simp [OrderedMap.keys]
  refine ⟨by rwa [OrderedMap.Distinct, hkeys], folded_of_foldKeys h, fun entry hentry => ?_⟩
  obtain ⟨given, hgiven, rfl⟩ := List.mem_map.mp hentry
  exact ⟨given.1, hgiven⟩

/-- Keys can be brought into a case whatever their values are. -/
theorem foldKeys_mapValues (hd : raw.Distinct) (h : info.foldKeys path raw = .ok fields)
    (f : Value → Value) :
    info.foldKeys path (raw.mapValues f) = .ok (fields.mapValues f) := by
  obtain ⟨hnodup, rfl⟩ := (foldKeys_eq_ok_iff hd).mp h
  have hmapped : (raw.mapValues f).Distinct := by
    rwa [OrderedMap.Distinct, OrderedMap.keys_mapValues]
  refine (foldKeys_eq_ok_iff hmapped).mpr ⟨by rwa [OrderedMap.keys_mapValues], ?_⟩
  simp [OrderedMap.mapValues, Function.comp_def]

/-- The value of the first entry whose key, in the case of the section, is the name. -/
def entry? (info : Info) (fields : OrderedMap Value) (name : String) : Option Value :=
  (fields.entries.find? fun entry => info.keyCase.apply entry.1 == name).map Prod.snd

/-- What is under a name after folding is what the raw mapping has under a key that is folded to
it. -/
theorem get?_of_foldKeys (h : info.foldKeys path raw = .ok fields) (name : String) :
    fields.get? name = info.entry? raw name := by
  rw [eq_of_foldKeys h, OrderedMap.get?_map_keys, entry?]

/-- A key that is folded already keeps its value, as no two keys may become one. -/
theorem get?_of_foldKeys_self (h : info.foldKeys path raw = .ok fields) {name : String}
    (hname : info.keyCase.apply name = name) {value : Value} (hvalue : raw.get? name = some value) :
    fields.get? name = some value := by
  unfold foldKeys at h
  split at h
  · obtain rfl := Except.ok.inj h
    exact hvalue
  · obtain ⟨hnodup, -, rfl⟩ := foldEntries_eq_ok_iff.mp h
    refine OrderedMap.lookup_of_mem ?_ ?_
    · simpa [OrderedMap.empty, Function.comp_def] using hnodup
    · refine List.mem_append_right _ (List.mem_map.mpr ⟨_, OrderedMap.mem_of_lookup hvalue, ?_⟩)
      rw [Prod.map, hname, id]

end Info

/-! ## Entries that no element declares -/

/-- The undeclared entries are kept in their order, if the section allows them. -/
theorem undeclaredEntries_eq_ok {children : List Element} {extraKeys : Bool} {path : String}
    {entries extras : List (String × Value)} :
    undeclaredEntries children extraKeys path entries = .ok extras ↔
      extras = entries.filter (fun entry => !children.any (·.isNamed entry.1)) ∧
        (extraKeys ∨ extras = []) := by
  induction entries generalizing extras with
  | nil =>
    simp only [undeclaredEntries, Except.ok.injEq, List.filter_nil]
    constructor
    · rintro rfl
      simp
    · rintro ⟨rfl, -⟩
      rfl
  | cons entry rest ih =>
    obtain ⟨key, value⟩ := entry
    rw [undeclaredEntries]
    by_cases hdeclared : children.any (·.isNamed key)
    · simp [hdeclared, ih]
    · rw [if_neg hdeclared, List.filter_cons_of_pos (by simpa using hdeclared)]
      cases extraKeys with
      | false =>
        rw [if_neg Bool.false_ne_true]
        constructor
        · intro h
          cases h
        · rintro ⟨rfl, h | h⟩
          · cases h
          · cases h
      | true =>
        rw [if_pos rfl]
        simp only [Outcome.bind_eq_ok, Outcome.pure_eq_ok, ih, true_or, and_true]
        constructor
        · rintro ⟨more, rfl, rfl⟩
          rfl
        · rintro rfl
          exact ⟨_, rfl, rfl⟩

/-! ## Computed entries -/

/-- Computing entries of declared keys keeps the keys. -/
theorem keys_resolveDerived {path : String} {entries fields : OrderedMap Value}
    {children : List Element} (h : resolveDerived path entries children = .ok fields)
    (hkeys : ∀ child ∈ children, child.key ∈ entries.keys) : fields.keys = entries.keys := by
  induction children generalizing entries with
  | nil => rw [← Except.ok.inj h]
  | cons child rest ih =>
    have hrest : ∀ other ∈ rest, other.key ∈ entries.keys := fun other hother =>
      hkeys other (by simp [hother])
    cases child with
    | derived info resolve =>
      rw [resolveDerived] at h
      split at h
      · rename_i value _
        have hkey : (entries.insert (Element.derived info resolve).key value).keys =
            entries.keys := OrderedMap.keys_insert_of_mem (hkeys (.derived info resolve) (by simp))
        rw [ih h (by rwa [hkey]), hkey]
      · cases h
    | _ => exact ih h hrest

/-- An entry that is not computed keeps its value. -/
theorem get?_resolveDerived {path : String} {entries fields : OrderedMap Value}
    {children : List Element} (h : resolveDerived path entries children = .ok fields)
    {key : String} (hkey : ∀ child ∈ children, child.isDerived → child.key ≠ key) :
    fields.get? key = entries.get? key := by
  induction children generalizing entries with
  | nil => rw [← Except.ok.inj h]
  | cons child rest ih =>
    have hrest : ∀ other ∈ rest, other.isDerived → other.key ≠ key := fun other hother =>
      hkey other (by simp [hother])
    cases child with
    | derived info resolve =>
      rw [resolveDerived] at h
      split at h
      · have hne := hkey (.derived info resolve) (by simp) rfl
        rw [ih h hrest, OrderedMap.get?_insert, if_neg (Ne.symm hne)]
      · cases h
    | _ => exact ih h hrest

/-! ## Entries of categories -/

/-- What is found under the key of the shared defaults is taken out. It is null, if there is
anything at all, and then nothing is shared, or it is a mapping that is valid. -/
theorem takeShared_eq_ok_iff {check : String → Value → Except Failure Value} {path key : String}
    {fields others : OrderedMap Value} {shared? : Option (OrderedMap Value)} :
    takeShared check path (some key) fields = .ok (shared?, others) ↔
      others = fields.erase key ∧
        (shared? = none ∧ (fields.get? key).getD .null = .null ∨
          ∃ shared layer, shared? = some shared ∧ fields.get? key = some (.map shared) ∧
            check (Path.join path key) (.map shared) = .ok layer) := by
  simp only [takeShared]
  cases hvalue : fields.get? key with
  | none => simp [eq_comm, and_comm]
  | some value =>
    cases value with
    | null => simp [eq_comm, and_comm]
    | map inner =>
      simp only [Outcome.bind_eq_ok, Outcome.pure_eq_ok, Prod.mk.injEq]
      constructor
      · rintro ⟨layer, hlayer, rfl, rfl⟩
        exact ⟨rfl, .inr ⟨inner, layer, rfl, rfl, hlayer⟩⟩
      · rintro ⟨rfl, ⟨-, hnull⟩ | ⟨shared, layer, rfl, hget, hlayer⟩⟩
        · cases hnull
        · cases hget
          exact ⟨layer, hlayer, rfl, rfl⟩
    | _ => simp

/-- What is left beside the shared defaults are entries of the category, and no longer under the key
of these. The shared defaults are a mapping in the category. -/
theorem takeShared_eq_ok {check : String → Value → Except Failure Value} {path : String}
    {defaultKey? : Option String} {fields others : OrderedMap Value}
    {shared? : Option (OrderedMap Value)} (hd : fields.Distinct)
    (h : takeShared check path defaultKey? fields = .ok (shared?, others)) :
    others.entries.Sublist fields.entries ∧
      (∀ key, defaultKey? = some key → key ∉ others.keys) ∧
      ∀ shared, shared? = some shared → ∃ key, (key, .map shared) ∈ fields.entries := by
  cases defaultKey? with
  | none =>
    obtain ⟨rfl, rfl⟩ := Prod.mk.inj (Except.ok.inj h)
    exact ⟨.refl _, by simp, by simp⟩
  | some key =>
    obtain ⟨rfl, hshared⟩ := takeShared_eq_ok_iff.mp h
    refine ⟨List.eraseP_sublist, ?_, ?_⟩
    · rintro other ⟨⟩
      exact OrderedMap.not_mem_keys_erase hd key
    · rintro shared rfl
      rcases hshared with ⟨hnone, -⟩ | ⟨found, _, hfound, hget, -⟩
      · cases hnone
      · rw [Option.some.inj hfound]
        exact ⟨key, OrderedMap.mem_of_lookup hget⟩

/-- An entry of a category is left beside the shared defaults, or it is these, which are null or
have been checked. -/
theorem mem_of_takeShared {check : String → Value → Except Failure Value} {path : String}
    {defaultKey? : Option String} {fields others : OrderedMap Value}
    {shared? : Option (OrderedMap Value)} (hd : fields.Distinct)
    (h : takeShared check path defaultKey? fields = .ok (shared?, others))
    {entry : String × Value} (hentry : entry ∈ fields.entries) :
    entry ∈ others.entries ∨ entry.2 = .null ∨ ∃ q layer, check q entry.2 = .ok layer := by
  cases defaultKey? with
  | none =>
    obtain ⟨-, rfl⟩ := Prod.mk.inj (Except.ok.inj h)
    exact .inl hentry
  | some key =>
    obtain ⟨rfl, hshared⟩ := takeShared_eq_ok_iff.mp h
    by_cases hkey : entry.1 = key
    · have hget : fields.get? key = some entry.2 := hkey ▸ OrderedMap.lookup_of_mem hd hentry
      rw [hget] at hshared
      rcases hshared with ⟨-, hnull⟩ | ⟨shared, layer, -, hmap, hlayer⟩
      · exact .inr (.inl hnull)
      · rw [Option.some.inj hmap]
        exact .inr (.inr ⟨_, layer, hlayer⟩)
    · exact .inl ((List.mem_eraseP_of_neg (by simpa using hkey)).mpr hentry)

/-- A category without an entry under the key of the shared defaults shares none. -/
theorem takeShared_of_not_mem {check : String → Value → Except Failure Value} {path : String}
    {defaultKey? : Option String} {fields : OrderedMap Value}
    (h : ∀ key, defaultKey? = some key → key ∉ fields.keys) :
    takeShared check path defaultKey? fields = .ok (none, fields) := by
  cases defaultKey? with
  | none => rfl
  | some key =>
    have hkey := h key rfl
    simp only [takeShared, (fields.get?_eq_none_iff key).mpr hkey,
      OrderedMap.erase_of_not_mem hkey]

theorem takeShared_empty {check : String → Value → Except Failure Value} {path : String}
    {defaultKey? : Option String} :
    takeShared check path defaultKey? .empty = .ok (none, .empty) :=
  takeShared_of_not_mem (by simp [OrderedMap.empty, OrderedMap.keys])

/-- A loop that adds an entry in each step, where a step looks at nothing else if the key is new. -/
theorem foldlM_insert_eq_ok {step : OrderedMap Value → String × Value →
      Except Failure (OrderedMap Value)} (P : String × Value → Value → Prop)
    (hstep : ∀ out entry result, entry.1 ∉ out.keys →
      (step out entry = .ok result ↔ ∃ valid, P entry valid ∧ result = out.insert entry.1 valid))
    {entries : List (String × Value)} (hd : (entries.map Prod.fst).Nodup)
    (out result : OrderedMap Value) (hnew : ∀ key ∈ entries.map Prod.fst, key ∉ out.keys) :
    entries.foldlM step out = .ok result ↔ ∃ valids,
      List.Forall₂ (fun entry valid => valid.1 = entry.1 ∧ P entry valid.2) entries valids ∧
        result = ⟨out.entries ++ valids⟩ := by
  induction entries generalizing out with
  | nil =>
    simp only [List.foldlM_nil, Outcome.pure_eq_ok, List.forall₂_nil_left_iff, exists_eq_left,
      List.append_nil]
    exact eq_comm
  | cons entry rest ih =>
    simp only [List.map_cons, List.nodup_cons, List.mem_cons, forall_eq_or_imp] at hd hnew
    have hrest : ∀ value, ∀ other ∈ rest.map Prod.fst, other ∉ (out.insert entry.1 value).keys := by
      intro value other hother
      have hne : other ≠ entry.1 := fun heq => hd.1 (heq ▸ hother)
      rw [OrderedMap.keys_insert_of_not_mem hnew.1]
      simp [hnew.2 other hother, hne]
    simp only [List.foldlM_cons, Outcome.bind_eq_ok, hstep out entry _ hnew.1]
    constructor
    · rintro ⟨_, ⟨valid, hvalid, rfl⟩, hloop⟩
      obtain ⟨valids, hvalids, rfl⟩ := (ih hd.2 _ (hrest valid)).mp hloop
      refine ⟨(entry.1, valid) :: valids, .cons ⟨rfl, hvalid⟩ hvalids, ?_⟩
      rw [OrderedMap.insert_of_not_mem hnew.1]
      simp
    · rintro ⟨valids, hvalids, rfl⟩
      cases hvalids with
      | @cons _ valid _ more hvalid hmore =>
        refine ⟨_, ⟨valid.2, hvalid.2, rfl⟩, (ih hd.2 _ (hrest valid.2)).mpr ⟨more, hmore, ?_⟩⟩
        rw [OrderedMap.insert_of_not_mem hnew.1, ← hvalid.1]
        simp

/-! ## The length of a list -/

theorem checkLength_eq_ok_iff {path : String} {minLength? maxLength? : Option Nat} {size : Nat} :
    checkLength path minLength? maxLength? size = .ok () ↔
      (∀ least, minLength? = some least → least ≤ size) ∧
        ∀ most, maxLength? = some most → size ≤ most := by
  have hleast : minLength?.filter (size < ·) = none ↔
      ∀ least, minLength? = some least → least ≤ size := by
    simp [Option.filter_eq_none_iff]
  have hmost : maxLength?.filter (size > ·) = none ↔
      ∀ most, maxLength? = some most → size ≤ most := by
    simp [Option.filter_eq_none_iff]
  rw [← hleast, ← hmost, checkLength]
  split
  · rename_i hfilter
    simp [hfilter]
  · rename_i hfilter
    simp [hfilter]
  · rename_i hfilter hfilter'
    simp [hfilter, hfilter']

/-! ## Last steps that change nothing -/

namespace Element

variable {element : Element} (hfinish : ∀ siblings value path,
  element.finish siblings value path = .ok value)

include hfinish

theorem finishEntry_of_finish {path key : String} {fields : OrderedMap Value}
    (hkey : key ∈ fields.keys) : element.finishEntry path fields key = .ok fields := by
  obtain ⟨value, hvalue⟩ := Option.isSome_iff_exists.mp ((fields.get?_isSome_iff key).mpr hkey)
  simp only [finishEntry, hfinish, hvalue, Option.getD_some, Outcome.ok_bind]
  rw [OrderedMap.insert_of_get? hvalue]
  rfl

theorem finishEntries_of_finish (path : String) (fields : OrderedMap Value) :
    element.finishEntries path fields = .ok fields :=
  Outcome.foldlM_of_fixed fun _ hkey => finishEntry_of_finish hfinish hkey

theorem finishItems_of_finish (path : String) (items : List Value) :
    element.finishItems path items = .ok items := by
  refine Outcome.foldlM_of_fixed fun index hindex => ?_
  have hlt : index < items.length := List.mem_range.mp hindex
  have hvalue : items.getD index .null = items[index] := by
    rw [List.getD_eq_getElem?_getD, List.getElem?_eq_getElem hlt, Option.getD_some]
  simp only [hfinish, Outcome.ok_bind, hvalue, List.set_getElem_self]
  rfl

end Element

theorem Element.finishChildren_of_finish {path : String} {children : List Element}
    {fields : OrderedMap Value}
    (hfinish : ∀ child ∈ children, ∀ siblings value path,
      child.finish siblings value path = .ok value)
    (hkeys : ∀ child ∈ children, child.key ∈ fields.keys) :
    finishChildren path children fields = .ok fields :=
  Outcome.foldlM_of_fixed fun child hchild =>
    finishEntry_of_finish (hfinish child hchild) (hkeys child hchild)

end ConfigSchema
