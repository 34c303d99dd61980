import ConfigSchema.Proofs.Element.Entries
import ConfigSchema.Proofs.Element.ExplicitNull

/-!
# Shared defaults as a base

The entry under the key of the shared defaults is no entry itself: each other entry is put on top of
it. This comes to the same as a category in which every entry is spelled out, with what it does not
set itself taken from the shared defaults, as long as keys that become one are spelled alike.

Keys are brought into a case after entries have been put on top of the defaults, and no two keys of
a mapping may become one. So it takes some care to see that the two mappings fail alike as well.

## Main definitions

- `clash?` — the first key that becomes one with a key before it
- `Info.completed` — a mapping with what it does not set itself taken from another
- `Info.spelledOut` — an entry of a category with its part of the shared defaults

## Main statements

- `Info.foldKeys_eq` — keys are brought into a case unless two of them clash
- `clash?_filter` — keys that become one with no other do not matter to that
- `Element.readsAlike_of_quiet` — sections with the same entries, in another order
- `Element.validate_spelledOut` — shared defaults are a base under every entry
- `Element.validate_ne_spelledOut` — but not if keys that become one are spelled differently
-/

namespace ConfigSchema

/-! ## Keys that become one -/

/-- The first key that becomes, in the case, one of those seen before it. -/
def clash? (keyCase : KeyCase) : (seen : List String) → (keys : List String) → Option String
  | _, [] => none
  | seen, key :: rest =>
      if keyCase.apply key ∈ seen then some key
      else clash? keyCase (seen ++ [keyCase.apply key]) rest

variable {keyCase : KeyCase}

theorem clash?_eq_none_iff {seen keys : List String} :
    clash? keyCase seen keys = none ↔
      (keys.map keyCase.apply).Nodup ∧ ∀ key ∈ keys, keyCase.apply key ∉ seen := by
  induction keys generalizing seen with
  | nil => simp [clash?]
  | cons key rest ih =>
    rw [clash?]
    by_cases hseen : keyCase.apply key ∈ seen
    · simp [hseen]
    · rw [if_neg hseen, ih]
      simp only [List.map_cons, List.nodup_cons, List.mem_cons, forall_eq_or_imp, hseen,
        not_false_eq_true, true_and, List.mem_append, List.not_mem_nil, or_false, not_or,
        List.mem_map, not_exists, not_and, forall_and]
      tauto

theorem mem_of_clash? {seen keys : List String} {key : String}
    (h : clash? keyCase seen keys = some key) : key ∈ keys := by
  induction keys generalizing seen with
  | nil => cases h
  | cons first rest ih =>
    rw [clash?] at h
    split at h
    · exact Option.some.inj h ▸ List.mem_cons_self
    · exact List.mem_cons_of_mem _ (ih h)

/-- Entries are added under keys in a case unless one of these clashes, which is then reported. -/
theorem foldEntries_eq (path : String) (out : OrderedMap Value) (entries : List (String × Value)) :
    foldEntries keyCase path out entries =
      match clash? keyCase out.keys (entries.map Prod.fst) with
      | some key => .error (.invalid (Path.join path (keyCase.apply key)) (.keyCollision key))
      | none => .ok ⟨out.entries ++ entries.map (Prod.map keyCase.apply id)⟩ := by
  induction entries generalizing out with
  | nil => simp [foldEntries, clash?]
  | cons entry rest ih =>
    obtain ⟨key, value⟩ := entry
    rw [foldEntries, List.map_cons, clash?]
    by_cases hkey : keyCase.apply key ∈ out.keys
    · rw [if_pos ((out.contains_iff _).mpr hkey), if_pos hkey]
    · rw [if_neg (mt (out.contains_iff _).mp hkey), if_neg hkey, ih,
        OrderedMap.keys_insert_of_not_mem hkey, OrderedMap.insert_of_not_mem hkey]
      simp [Prod.map]

/-- The keys of a mapping are brought into a case unless one of them clashes. -/
theorem Info.foldKeys_eq (info : Info) (path : String) {raw : OrderedMap Value}
    (hd : raw.Distinct) : info.foldKeys path raw =
      match clash? info.keyCase [] raw.keys with
      | some key => .error (.invalid (Path.join path (info.keyCase.apply key)) (.keyCollision key))
      | none => .ok ⟨info.foldedEntries raw⟩ := by
  by_cases hmixed : info.keyCase = .mixed
  · -- distinct keys that stay as they are do not clash
    have hnone : clash? info.keyCase [] raw.keys = none := by
      refine clash?_eq_none_iff.mpr ⟨?_, by simp⟩
      rw [hmixed]
      exact hd.map fun _ _ heq => heq
    rw [hnone]
    refine (foldKeys_eq_ok_iff hd).mpr ⟨(clash?_eq_none_iff.mp hnone).1, rfl⟩
  · have hfold : info.foldKeys path raw = foldEntries info.keyCase path .empty raw.entries := by
      rw [foldKeys]
      split
      · contradiction
      · rfl
    rw [hfold, foldEntries_eq]
    rfl

/-- A key that becomes one with no other can be left out when keys are looked through for a
clash. -/
theorem clash?_filter {keys : List String} {p : String → Bool} {seen others : List String}
    (halone : keys.Pairwise fun k l => keyCase.apply k = keyCase.apply l → p k ∧ p l)
    (hseen : ∀ key ∈ keys, keyCase.apply key ∈ seen → p key)
    (hothers : ∀ key ∈ keys, p key → (keyCase.apply key ∈ seen ↔ keyCase.apply key ∈ others)) :
    clash? keyCase seen keys = clash? keyCase others (keys.filter p) := by
  induction keys generalizing seen others with
  | nil => rfl
  | cons key rest ih =>
    obtain ⟨hkey, hrest⟩ := List.pairwise_cons.mp halone
    simp only [List.forall_mem_cons] at hseen hothers
    by_cases hkept : p key
    · rw [List.filter_cons_of_pos hkept, clash?, clash?]
      by_cases hmem : keyCase.apply key ∈ seen
      · rw [if_pos hmem, if_pos ((hothers.1 hkept).mp hmem)]
      · rw [if_neg hmem, if_neg (mt (hothers.1 hkept).mpr hmem)]
        refine ih hrest (fun other hother hmem => ?_) fun other hother hp => ?_
        · rcases List.mem_append.mp hmem with hold | hnew
          · exact hseen.2 other hother hold
          · exact (hkey other hother (List.mem_singleton.mp hnew).symm).2
        · rw [List.mem_append, List.mem_append, hothers.2 other hother hp]
    · have hmem : keyCase.apply key ∉ seen := mt hseen.1 hkept
      rw [List.filter_cons_of_neg hkept, clash?, if_neg hmem]
      refine ih hrest (fun other hother hmem => ?_) fun other hother hp => ?_
      · rcases List.mem_append.mp hmem with hold | hnew
        · exact hseen.2 other hother hold
        · exact (hkey other hother (List.mem_singleton.mp hnew).symm).2
      · have hne : keyCase.apply other ∉ [keyCase.apply key] := fun hmem =>
          hkept (hkey other hother (List.mem_singleton.mp hmem).symm).1
        rw [List.mem_append, or_iff_left hne, hothers.2 other hother hp]

/-- Two lists of keys clash alike if they differ in keys only that become one with no other. -/
theorem clash?_congr {keys others : List String} {quiet : String → Bool}
    (hsame : keys.filter (fun key => !quiet key) = others.filter fun key => !quiet key)
    (hkeys : keys.Pairwise fun k l => keyCase.apply k = keyCase.apply l → !quiet k ∧ !quiet l)
    (hothers : others.Pairwise fun k l => keyCase.apply k = keyCase.apply l → !quiet k ∧ !quiet l) :
    clash? keyCase [] keys = clash? keyCase [] others := by
  have hquiet : ∀ keys : List String, (keys.Pairwise fun k l =>
      keyCase.apply k = keyCase.apply l → !quiet k ∧ !quiet l) →
      clash? keyCase [] keys = clash? keyCase [] (keys.filter fun key => !quiet key) :=
    fun keys halone => clash?_filter halone (by simp) (by simp)
  rw [hquiet keys hkeys, hsame, ← hquiet others hothers]

/-! ## Entries that are spelled out -/

/-- Whether a mapping has an entry whose key becomes one with `key`. -/
def Info.sets (info : Info) (fields : OrderedMap Value) (key : String) : Bool :=
  fields.keys.any fun other => info.keyCase.apply other == info.keyCase.apply key

/-- A mapping with what it does not set itself taken from another. -/
def Info.completed (info : Info) (shared own : OrderedMap Value) : OrderedMap Value :=
  ⟨own.entries ++ shared.entries.filter fun entry => !info.sets own entry.1⟩

/-- An entry of a category with what it does not set itself taken from the shared defaults. -/
def Info.spelledOut (info : Info) (shared : OrderedMap Value) : Value → Value
  | .null => .map shared
  | .map own => .map (info.completed shared own)
  | value => value

/-- Two mappings spell alike the keys that become one. -/
def Info.SpellAlike (info : Info) (shared own : OrderedMap Value) : Prop :=
  ∀ name ∈ shared.keys, ∀ other ∈ own.keys,
    info.keyCase.apply name = info.keyCase.apply other → name = other

namespace Info

variable {info : Info} {shared own : OrderedMap Value}

theorem sets_iff {fields : OrderedMap Value} {key : String} : info.sets fields key ↔
    ∃ other ∈ fields.keys, info.keyCase.apply other = info.keyCase.apply key := by
  simp [sets]

theorem sets_of_mem {fields : OrderedMap Value} {key : String} (h : key ∈ fields.keys) :
    info.sets fields key :=
  sets_iff.mpr ⟨key, h, rfl⟩

theorem keys_completed (info : Info) (shared own : OrderedMap Value) :
    (info.completed shared own).keys =
      own.keys ++ shared.keys.filter fun name => !info.sets own name := by
  rw [completed, OrderedMap.keys, OrderedMap.keys, OrderedMap.keys, List.map_append,
    List.filter_map]
  rfl

theorem distinct_completed (hshared : shared.Distinct) (hown : own.Distinct) :
    (info.completed shared own).Distinct := by
  rw [OrderedMap.Distinct, keys_completed]
  refine List.nodup_append'.mpr ⟨hown, hshared.filter _, fun name hname hmem => ?_⟩
  simpa [sets_of_mem hname] using (List.mem_filter.mp hmem).2

/-- What a mapping sets itself wins over what it is completed with. -/
theorem get?_completed_of_own {name : String} {value : Value} (h : own.get? name = some value) :
    (info.completed shared own).get? name = some value := by
  rw [OrderedMap.get?] at h ⊢
  rw [completed, List.lookup_append, h]
  rfl

/-- Where keys are spelled alike, a mapping is completed with the keys that it does not have. -/
theorem mem_completed (halike : info.SpellAlike shared own) (entry : String × Value) :
    entry ∈ (info.completed shared own).entries ↔
      entry ∈ own.entries ∨ entry ∈ shared.entries ∧ entry.1 ∉ own.keys := by
  rw [completed, List.mem_append, List.mem_filter, Bool.not_eq_true']
  refine or_congr_right (and_congr_right fun hentry => ?_)
  rw [← Bool.not_eq_true, sets_iff]
  refine not_congr ⟨?_, fun hmem => ⟨entry.1, hmem, rfl⟩⟩
  rintro ⟨other, hother, heq⟩
  rwa [halike entry.1 (List.mem_map_of_mem hentry) other hother heq.symm]

/-- A key that `shared` sets becomes one with no other key, of `shared` itself or of a mapping that
spells its keys alike. -/
theorem pairwise_not_sets (hnodup : (shared.keys.map info.keyCase.apply).Nodup)
    (halike : info.SpellAlike shared own) {keys : List String} (hd : keys.Nodup)
    (hkeys : ∀ key ∈ keys, key ∈ own.keys ∨ key ∈ shared.keys) :
    keys.Pairwise fun k l => info.keyCase.apply k = info.keyCase.apply l →
      !info.sets shared k ∧ !info.sets shared l := by
  have hspelled : ∀ key ∈ keys, ∀ name ∈ shared.keys,
      info.keyCase.apply name = info.keyCase.apply key → name = key := by
    intro key hkey name hname heq
    rcases hkeys key hkey with hown | hshared
    · exact halike name hname key hown heq
    · exact List.inj_on_of_nodup_map hnodup hname hshared heq
  refine List.Pairwise.imp_of_mem (fun {k l} hk hl hne heq => ?_) hd
  have hnot : ¬info.sets shared k := fun hset => by
    obtain ⟨name, hname, hfold⟩ := sets_iff.mp hset
    exact hne ((hspelled k hk name hname hfold).symm.trans
      (hspelled l hl name hname (hfold.trans heq)))
  have hsame : info.sets shared l = info.sets shared k := by rw [sets, sets, heq]
  rw [hsame]
  simpa using hnot

end Info

namespace Element

variable {info : Info} {children : List Element} {extraKeys : Bool}

theorem distinct_foldedEntries {raw : OrderedMap Value}
    (h : (raw.keys.map info.keyCase.apply).Nodup) :
    (⟨info.foldedEntries raw⟩ : OrderedMap Value).Distinct := by
  rw [OrderedMap.keys, List.map_map] at h
  rwa [OrderedMap.Distinct, OrderedMap.keys, Info.foldedEntries, List.map_map]

/-- Sections with the same entries are validated alike if these stand in the same order, but for
declared ones with keys that become one with no other. -/
theorem readsAlike_of_quiet {fields others : OrderedMap Value} (hfields : fields.Distinct)
    (hothers : others.Distinct) (hmem : ∀ entry, entry ∈ fields.entries ↔ entry ∈ others.entries)
    (quiet : String → Bool)
    (hdeclared : ∀ key, quiet key → children.any (·.isNamed (info.keyCase.apply key)))
    (hsame : fields.entries.filter (fun entry => !quiet entry.1) =
      others.entries.filter fun entry => !quiet entry.1)
    (hfieldsAlone : fields.keys.Pairwise fun k l =>
      info.keyCase.apply k = info.keyCase.apply l → !quiet k ∧ !quiet l)
    (hothersAlone : others.keys.Pairwise fun k l =>
      info.keyCase.apply k = info.keyCase.apply l → !quiet k ∧ !quiet l) :
    (keyed info children extraKeys).ReadsAlike (.map fields) (.map others) := by
  intro mode path
  have hclash : clash? info.keyCase [] fields.keys = clash? info.keyCase [] others.keys := by
    refine clash?_congr ?_ hfieldsAlone hothersAlone
    simp only [OrderedMap.keys, List.filter_map, Function.comp_def, hsame]
  rw [validateAt_keyed (.inr (by simp)), validateAt_keyed (.inr (by simp)), Info.sectionFields,
    Info.sectionFields, info.foldKeys_eq path hfields, info.foldKeys_eq path hothers, hclash]
  cases hnone : clash? info.keyCase [] others.keys with
  | some key => rfl
  | none =>
    have hdistinct : ∀ raw : OrderedMap Value, clash? info.keyCase [] raw.keys = none →
        (⟨info.foldedEntries raw⟩ : OrderedMap Value).Distinct := fun raw hraw =>
      distinct_foldedEntries (clash?_eq_none_iff.mp hraw).1
    -- what is not declared is not quiet, so that it stands in the same order
    have hextras : ∀ raw : OrderedMap Value,
        (info.foldedEntries raw).filter (fun entry => !children.any (·.isNamed entry.1)) =
          (info.foldedEntries ⟨raw.entries.filter fun entry => !quiet entry.1⟩).filter
            fun entry => !children.any (·.isNamed entry.1) := by
      intro raw
      rw [Info.foldedEntries, Info.foldedEntries, List.filter_map, List.filter_map,
        List.filter_filter]
      congr 1
      refine List.filter_congr fun entry _ => ?_
      cases hquiet : quiet entry.1 with
      | false => simp
      | true => simp [hdeclared entry.1 hquiet]
    have hget := OrderedMap.get?_eq_of_mem_iff (hdistinct fields (hclash.trans hnone))
      (hdistinct others hnone) (fun entry => by simp only [Info.foldedEntries, List.mem_map, hmem])
    have hchildren :
        validateChildren children mode path ⟨info.foldedEntries fields⟩ =
          validateChildren children mode path ⟨info.foldedEntries others⟩ :=
      validateChildren_congr fun child _ _ => by rw [hget child.key]
    have hundeclared :
        undeclaredEntries children extraKeys path (info.foldedEntries fields) =
          undeclaredEntries children extraKeys path (info.foldedEntries others) :=
      undeclaredEntries_congr extraKeys (by rw [hextras fields, hsame, ← hextras others])
    simp only [Outcome.ok_bind]
    rw [hundeclared, hchildren]

/-- An entry on top of the shared defaults is validated like the one that is spelled out. -/
theorem readsAlike_completed {shared own : OrderedMap Value} (hshared : shared.Distinct)
    (hown : own.Distinct) (hnodup : (shared.keys.map info.keyCase.apply).Nodup)
    (hdeclared : ∀ name ∈ shared.keys, children.any (·.isNamed (info.keyCase.apply name)))
    (halike : info.SpellAlike shared own) :
    (keyed info children extraKeys).ReadsAlike (.map (shared.insertMany own.entries))
      (.map (info.completed shared own)) := by
  have hinserted := OrderedMap.distinct_insertMany hshared own.entries
  have hcompleted : (info.completed shared own).Distinct := Info.distinct_completed hshared hown
  refine readsAlike_of_quiet hinserted hcompleted (fun entry => ?_) (info.sets shared)
    (fun key hkey => ?_) ?_ (Info.pairwise_not_sets hnodup halike hinserted fun key hkey => ?_)
    (Info.pairwise_not_sets hnodup halike hcompleted fun key hkey => ?_)
  · rw [OrderedMap.mem_insertMany_iff hshared hown, Info.mem_completed halike]
  · obtain ⟨name, hname, heq⟩ := Info.sets_iff.mp hkey
    exact heq ▸ hdeclared name hname
  · -- what the defaults do not set are entries of its own, in their order
    have hnone : shared.entries.filter (fun entry => !info.sets shared entry.1) = [] :=
      List.filter_eq_nil_iff.mpr fun entry hentry => by
        simpa using Info.sets_of_mem (List.mem_map_of_mem hentry)
    rw [OrderedMap.filter_insertMany (fun key => !info.sets shared key), hnone, Info.completed,
      List.filter_append, List.filter_comm, hnone, List.filter_nil, List.append_nil]
    exact congrArg OrderedMap.entries
      (OrderedMap.ofList_of_nodup (hown.sublist (List.filter_sublist.map Prod.fst)))
  · exact (OrderedMap.mem_keys_of_insertMany hkey).symm
  · rw [Info.keys_completed] at hkey
    exact (List.mem_append.mp hkey).imp_right List.mem_of_mem_filter

/-- Shared defaults that are valid themselves set declared entries only, each of them once. -/
theorem declared_of_validate {shared : OrderedMap Value} (hshared : shared.Distinct)
    {layer : Value} (h : (keyed info children false).validate .layer (.map shared) = .ok layer) :
    (shared.keys.map info.keyCase.apply).Nodup ∧
      ∀ name ∈ shared.keys, children.any (·.isNamed (info.keyCase.apply name)) := by
  obtain ⟨valid, hvalid, -⟩ := Outcome.bind_eq_ok.mp h
  rw [validateAt_keyed (.inr (by simp))] at hvalid
  obtain ⟨fields, hfields, hvalid⟩ := Outcome.bind_eq_ok.mp hvalid
  obtain ⟨extras, hextras, -⟩ := Outcome.bind_eq_ok.mp hvalid
  obtain ⟨hnodup, rfl⟩ := (Info.foldKeys_eq_ok_iff hshared).mp hfields
  obtain ⟨rfl, hnone⟩ := undeclaredEntries_eq_ok.mp hextras
  refine ⟨hnodup, fun name hname => ?_⟩
  obtain ⟨entry, hentry, rfl⟩ := List.mem_map.mp hname
  have hall := List.filter_eq_nil_iff.mp (hnone.resolve_left Bool.false_ne_true)
  simpa using hall _ (List.mem_map_of_mem hentry)

/-! ## Categories -/

/-- An entry of a category is validated like the one that is spelled out. -/
theorem readsAlike_withShared {shared : OrderedMap Value} (hshared : shared.Distinct)
    {layer : Value}
    (hlayer : (keyed info children false).validate .layer (.map shared) = .ok layer)
    {value : Value} (hvalue : value.Proper)
    (halike : ∀ own, value = .map own → info.SpellAlike shared own) :
    (keyed info children false).ReadsAlike (withShared (some shared) value)
      (info.spelledOut shared value) := by
  obtain ⟨hnodup, hdeclared⟩ := declared_of_validate hshared hlayer
  cases value with
  | map own =>
    exact readsAlike_completed hshared hvalue.self hnodup hdeclared (halike own rfl)
  | _ => exact fun _ _ => rfl

section TakenOut

variable {raw : OrderedMap Value} {key : String}

/-- Taking out a key that becomes one with no other makes no difference to whether keys clash. -/
theorem clash?_erase (hd : raw.Distinct) (hmem : key ∈ raw.keys)
    (honly : ∀ other ∈ raw.keys, info.keyCase.apply other = key ↔ other = key) :
    clash? info.keyCase [] (raw.erase key).keys = clash? info.keyCase [] raw.keys := by
  have hkept : info.keyCase.apply key = key := (honly key hmem).mpr rfl
  have halone : raw.keys.Pairwise fun k l => info.keyCase.apply k = info.keyCase.apply l →
      !(k == key) ∧ !(l == key) := by
    refine List.Pairwise.imp_of_mem (fun {k l} hk hl hne heq => ?_) hd
    have hkey : k ≠ key := by
      rintro rfl
      exact hne ((honly l hl).mp (heq.symm.trans hkept)).symm
    have hother : l ≠ key := by
      rintro rfl
      exact hne ((honly k hk).mp (heq.trans hkept))
    simp [hkey, hother]
  rw [OrderedMap.keys_erase hd]
  refine clash?_congr ?_ (halone.filter _) halone
  rw [List.filter_filter]
  exact List.filter_congr fun other _ => by simp

/-- Such a key can be taken out before or after keys are brought into a case. -/
theorem erase_foldedEntries (hd : raw.Distinct) (hfolded : (raw.keys.map info.keyCase.apply).Nodup)
    (honly : ∀ other ∈ raw.keys, info.keyCase.apply other = key ↔ other = key) :
    (⟨info.foldedEntries raw⟩ : OrderedMap Value).erase key =
      ⟨info.foldedEntries (raw.erase key)⟩ := by
  have hentries : ((⟨info.foldedEntries raw⟩ : OrderedMap Value).erase key).entries =
      info.foldedEntries (raw.erase key) := by
    rw [OrderedMap.entries_erase (distinct_foldedEntries hfolded), Info.foldedEntries,
      Info.foldedEntries, OrderedMap.entries_erase hd, List.filter_map]
    congr 1
    refine List.filter_congr fun entry hentry => ?_
    simp [honly entry.1 (List.mem_map_of_mem hentry)]
  exact congrArg OrderedMap.mk hentries

end TakenOut

theorem foldedEntries_mapValues (raw : OrderedMap Value) (f : Value → Value) :
    info.foldedEntries (raw.mapValues f) = (info.foldedEntries raw).map (Prod.map id f) := by
  simp [Info.foldedEntries, OrderedMap.mapValues, Function.comp_def]

/-- Entries on top of the shared defaults are added like those that are spelled out. -/
theorem foldlM_addEntry_spelledOut {inner : Info} {mode : Mode} {path : String}
    {others shared : OrderedMap Value} (hothers : (Value.map others).Proper)
    (hshared : shared.Distinct) {layer : Value}
    (hlayer : (keyed inner children false).validate .layer (.map shared) = .ok layer)
    (halike : ∀ key own, others.get? key = some (.map own) → inner.SpellAlike shared own)
    (start : OrderedMap Value) :
    (info.foldedEntries others).foldlM
        (addEntry info (keyed inner children false) mode path (some shared)) start =
      (info.foldedEntries (others.mapValues (inner.spelledOut shared))).foldlM
        (addEntry info (keyed inner children false) mode path none) start := by
  rw [foldedEntries_mapValues]
  refine Outcome.foldlM_congr (List.forall₂_map_right_iff.mpr
    (List.forall₂_same.mpr fun entry hfolded out => ?_)) _
  obtain ⟨⟨key, value⟩, hentry, rfl⟩ := List.mem_map.mp hfolded
  have hspelled : (keyed inner children false).ReadsAlike (withShared (some shared) value)
      (inner.spelledOut shared value) :=
    readsAlike_withShared hshared hlayer (hothers.of_field hentry) fun own hown =>
      halike key own (hown ▸ OrderedMap.lookup_of_mem hothers.self hentry)
  rw [addEntry, addEntry]
  simp only [Prod.map, id, hspelled mode]
  rfl

/-- A category that takes its shared defaults from `raw`, which has no other spelling of their key,
is validated as the one without them in which each entry is spelled out. -/
theorem readsAlike_spelledOut {inner : Info} {minEntries : Nat} {defaultKey : String}
    {raw shared : OrderedMap Value} (hraw : (Value.map raw).Proper)
    (hshared : raw.get? defaultKey = some (.map shared)) {layer : Value}
    (hlayer : (keyed inner children false).validate .layer (.map shared) = .ok layer)
    (honly : ∀ other ∈ raw.keys, info.keyCase.apply other = defaultKey ↔ other = defaultKey)
    (halike : ∀ key own, (raw.erase defaultKey).get? key = some (.map own) →
      inner.SpellAlike shared own) :
    (category info (keyed inner children false) minEntries (some defaultKey)).ReadsAlike
      (.map raw) (.map ((raw.erase defaultKey).mapValues (inner.spelledOut shared))) := by
  intro mode path
  have hd : raw.Distinct := hraw.self
  have hmem : defaultKey ∈ raw.keys := (raw.get?_isSome_iff defaultKey).mp (by rw [hshared]; rfl)
  have hkept : info.keyCase.apply defaultKey = defaultKey := (honly defaultKey hmem).mpr rfl
  have hproper : (Value.map shared).Proper := hraw.of_field (OrderedMap.mem_of_lookup hshared)
  have hsublist : (raw.erase defaultKey).entries.Sublist raw.entries := List.eraseP_sublist
  have hothers : (Value.map (raw.erase defaultKey)).Proper :=
    .map (hd.sublist (hsublist.map Prod.fst)) fun entry hentry =>
      hraw.of_field (hsublist.subset hentry)
  have hrest : ((raw.erase defaultKey).mapValues (inner.spelledOut shared)).Distinct := by
    rw [OrderedMap.Distinct, OrderedMap.keys_mapValues]
    exact hothers.self
  rw [validateAt_category (.inr (by simp)), validateAt_category (.inr (by simp)),
    Info.categoryFields, Info.categoryFields, info.foldKeys_eq path hd,
    info.foldKeys_eq path hrest, OrderedMap.keys_mapValues, clash?_erase hd hmem honly]
  cases hnone : clash? info.keyCase [] raw.keys with
  | some key => rfl
  | none =>
    have hfolded := (clash?_eq_none_iff.mp hnone).1
    have hread : info.foldKeys path raw = .ok ⟨info.foldedEntries raw⟩ :=
      (Info.foldKeys_eq_ok_iff hd).mpr ⟨hfolded, rfl⟩
    have hget : (⟨info.foldedEntries raw⟩ : OrderedMap Value).get? defaultKey =
        some (.map shared) :=
      Info.get?_of_foldKeys_self hread hkept hshared
    obtain ⟨valid, hvalid, -⟩ := Outcome.bind_eq_ok.mp hlayer
    have hcheck := ((keyed inner children false).validateAt_alike .layer ""
      (Path.join path defaultKey) (.map shared) valid).mp hvalid
    have htake := takeShared_eq_ok_iff.mpr ⟨rfl, .inr ⟨shared, valid, rfl, hget, hcheck⟩⟩
    have hgone : defaultKey ∉ (info.foldedEntries (raw.erase defaultKey)).map Prod.fst := by
      have h := OrderedMap.not_mem_keys_erase (distinct_foldedEntries hfolded) defaultKey
      rwa [erase_foldedEntries hd hfolded honly] at h
    rw [Outcome.ok_bind, Outcome.ok_bind, htake, takeShared_of_not_mem,
      Outcome.ok_bind, Outcome.ok_bind, erase_foldedEntries hd hfolded honly]
    · rw [foldlM_addEntry_spelledOut hothers hproper.self hlayer halike]
    · rintro key hkey hmem
      obtain rfl := Option.some.inj hkey
      rw [OrderedMap.keys, foldedEntries_mapValues, List.map_map] at hmem
      exact hgone hmem

/-- Keys of a category that become one are refused. -/
theorem validate_of_clash {item : Element} {minEntries : Nat} {defaultKey? : Option String}
    {raw : OrderedMap Value} (hd : raw.Distinct) {key other : String} (hkey : key ∈ raw.keys)
    (hother : other ∈ raw.keys) (hne : other ≠ key)
    (hfold : info.keyCase.apply other = info.keyCase.apply key) (mode : Mode) :
    ∃ refused ∈ raw.keys,
      (category info item minEntries defaultKey?).validate mode (.map raw) =
        .error (.invalid (info.keyCase.apply refused) (.keyCollision refused)) := by
  cases hclash : clash? info.keyCase [] raw.keys with
  | none =>
    exact absurd (List.inj_on_of_nodup_map (clash?_eq_none_iff.mp hclash).1 hother hkey hfold) hne
  | some refused =>
    refine ⟨refused, mem_of_clash? hclash, ?_⟩
    rw [validate, validateAt_category (.inr (by simp)), Info.categoryFields,
      info.foldKeys_eq "" hd, hclash]
    rfl

/-- No entry of a category that starts from nothing stands under the key of its shared defaults. -/
theorem not_mem_keys_of_validateAt {item : Element} {minEntries : Nat} {defaultKey : String}
    (hdefault : info.default? = none) {mode : Mode} {path : String} {raw : OrderedMap Value}
    (hraw : (Value.map raw).Proper) {document : Value}
    (h : (category info item minEntries (some defaultKey)).validateAt mode path (.map raw) =
      .ok document) : ∃ entries, document = .map entries ∧ defaultKey ∉ entries.keys := by
  obtain ⟨_, entries, -, rfl, -, hkeys⟩ := keeps_category (.of_none hdefault) hraw (by simp) h
  refine ⟨entries, rfl, fun hmem => ?_⟩
  rw [hkeys, startEntries_eq_empty fun _ => hdefault] at hmem
  simp [OrderedMap.keys, OrderedMap.empty] at hmem

/-- Shared defaults are a base under every entry. A category that takes them from `raw` is validated
as the one without them in which each entry is spelled out: nothing is made of the defaults
themselves, and what an entry sets wins. This is about names that the entries spell as the defaults
do, and about a key of the defaults that is in the case of the category. If another key of `raw`
becomes this one, it is refused. -/
theorem validate_spelledOut {inner : Info} {minEntries : Nat} {defaultKey : String}
    (hdefault : info.default? = none) (hkept : info.keyCase.apply defaultKey = defaultKey)
    {raw shared : OrderedMap Value} (hraw : (Value.map raw).Proper)
    (hshared : raw.get? defaultKey = some (.map shared)) {layer : Value}
    (hlayer : (keyed inner children false).validate .layer (.map shared) = .ok layer)
    (halike : ∀ key own, key ≠ defaultKey → raw.get? key = some (.map own) →
      inner.SpellAlike shared own) (mode : Mode) :
    ((∀ other ∈ raw.keys, other ≠ defaultKey → info.keyCase.apply other ≠ defaultKey) →
        (category info (keyed inner children false) minEntries (some defaultKey)).validate mode
            (.map raw) =
          (category info (keyed inner children false) minEntries (some defaultKey)).validate mode
            (.map ((raw.erase defaultKey).mapValues (inner.spelledOut shared)))) ∧
      (∀ path document,
        (category info (keyed inner children false) minEntries (some defaultKey)).validateAt mode
            path (.map raw) = .ok document →
          ∃ entries, document = .map entries ∧ defaultKey ∉ entries.keys) ∧
      (∀ key own name value, key ≠ defaultKey → raw.get? key = some (.map own) →
        own.get? name = some value →
          ∃ fields, ((raw.erase defaultKey).mapValues (inner.spelledOut shared)).get? key =
            some (.map fields) ∧ fields.get? name = some value) ∧
      ∀ other ∈ raw.keys, other ≠ defaultKey → info.keyCase.apply other = defaultKey →
        ∃ refused ∈ raw.keys,
          (category info (keyed inner children false) minEntries (some defaultKey)).validate mode
              (.map raw) =
            .error (.invalid (info.keyCase.apply refused) (.keyCollision refused)) := by
  have hd : raw.Distinct := hraw.self
  have hmem : defaultKey ∈ raw.keys := (raw.get?_isSome_iff defaultKey).mp (by rw [hshared]; rfl)
  refine ⟨fun honly => ?_, fun path document h => not_mem_keys_of_validateAt hdefault hraw h,
    fun key own name value hne hget hvalue => ?_, fun other hother hne hfold => ?_⟩
  · have halone : ∀ other ∈ raw.keys,
        info.keyCase.apply other = defaultKey ↔ other = defaultKey := fun other hother =>
      ⟨fun hfold => by_contra fun hne => honly other hother hne hfold, fun h => h ▸ hkept⟩
    have hothers : ∀ key own, (raw.erase defaultKey).get? key = some (.map own) →
        inner.SpellAlike shared own := by
      intro key own hget
      by_cases hkey : key = defaultKey
      · have hnone := (OrderedMap.get?_eq_none_iff _ _).mpr
          (OrderedMap.not_mem_keys_erase hd defaultKey)
        rw [hkey, hnone] at hget
        cases hget
      · exact halike key own hkey (OrderedMap.get?_erase_of_ne raw hkey ▸ hget)
    rw [validate, validate, readsAlike_spelledOut hraw hshared hlayer halone hothers mode ""]
  · refine ⟨inner.completed shared own, ?_, Info.get?_completed_of_own hvalue⟩
    rw [OrderedMap.get?_mapValues, OrderedMap.get?_erase_of_ne raw hne, hget]
    rfl
  · exact validate_of_clash hd hmem hother hne (hfold.trans hkept.symm) mode

/-- A room, which has a floor and a number of seats. -/
def seatedRoom : Element :=
  .keyed { keyCase := .lower }
    [.scalar { name? := some "floor" } .int, .scalar { name? := some "seats" } .int] false

/-- Rooms by name, with shared defaults under `defaultKey`. -/
def seatedRooms (defaultKey : String) : Element :=
  .category { keyCase := .lower } seatedRoom 0 (some defaultKey)

/-- Ground floor and ten seats, unless told otherwise. -/
def ordinaryRoom : OrderedMap Value := ⟨[("Floor", .int 0), ("seats", .int 10)]⟩

def attendedRooms : OrderedMap Value :=
  ⟨[("Attic", .map ⟨[("Floor", .int 3)]⟩), ("_", .map ordinaryRoom), ("HALL", .null)]⟩

/-- The attic is on its own floor, with as many seats as any room. -/
theorem validate_attendedRooms :
    (seatedRooms "_").validate .full (.map attendedRooms) =
        (seatedRooms "_").validate .full (.map ⟨[
          ("Attic", .map ⟨[("Floor", .int 3), ("seats", .int 10)]⟩),
          ("HALL", .map ordinaryRoom)]⟩) ∧
      (seatedRooms "_").validate .full (.map attendedRooms) = .ok (.map ⟨[
        ("attic", .map ⟨[("floor", .int 3), ("seats", .int 10)]⟩),
        ("hall", .map ⟨[("floor", .int 0), ("seats", .int 10)]⟩)]⟩) := by
  have hproper : (Value.map attendedRooms).Proper := by
    simp [attendedRooms, ordinaryRoom, OrderedMap.Distinct, OrderedMap.keys]
  have hdefault : ({ keyCase := .lower } : Info).default? = none := rfl
  have hlayer : seatedRoom.validate .layer (.map ordinaryRoom) = .ok _ := rfl
  have halike : ∀ key own, key ≠ "_" → attendedRooms.get? key = some (.map own) →
      ({ keyCase := .lower } : Info).SpellAlike ordinaryRoom own := by
    intro key own hne hget
    have hentry := OrderedMap.mem_of_lookup hget
    simp only [attendedRooms, List.mem_cons, Prod.mk.injEq, List.not_mem_nil, or_false, hne,
      false_and, reduceCtorEq, and_false, Value.map.injEq] at hentry
    obtain ⟨-, rfl⟩ := hentry
    unfold Info.SpellAlike
    decide +kernel
  have halone : ∀ other ∈ attendedRooms.keys, other ≠ "_" → KeyCase.lower.apply other ≠ "_" := by
    decide +kernel
  exact ⟨(validate_spelledOut hdefault (by decide) hproper rfl hlayer halike .full).1 halone, rfl⟩

def tenSeats : OrderedMap Value := ⟨[("seats", .int 10)]⟩

/-- Another key that becomes the one of the defaults is refused, though without them it is taken for
their key. Likewise, an entry that spells a name in another way than the defaults is refused.
Defaults under a key that is not in the case of the category are taken for an entry. -/
theorem validate_ne_spelledOut :
    (∀ defaultKey ∈ ["base", "_", "Base"], (seatedRooms defaultKey).check = .ok ()) ∧
      (∃ layer, seatedRoom.validate .layer (.map tenSeats) = .ok layer) ∧
      (∃ layer, seatedRoom.validate .layer (.map ⟨[("Seats", .int 10)]⟩) = .ok layer) ∧
      (seatedRooms "base").validate .full (.map ⟨[("base", .map tenSeats), ("Base", .map ⟨[]⟩)]⟩) ≠
        (seatedRooms "base").validate .full (.map ⟨[("Base", .map tenSeats)]⟩) ∧
      (seatedRooms "_").validate .full
          (.map ⟨[("_", .map ⟨[("Seats", .int 10)]⟩), ("attic", .map ⟨[("seats", .int 3)]⟩)]⟩) ≠
        (seatedRooms "_").validate .full (.map ⟨[("attic", .map ⟨[("seats", .int 3)]⟩)]⟩) ∧
      (seatedRooms "Base").validate .full (.map ⟨[("Base", .map tenSeats)]⟩) ≠
        (seatedRooms "Base").validate .full (.map ⟨[]⟩) := by
  refine ⟨?_, ⟨_, rfl⟩, ⟨_, rfl⟩, fun h => ?_, fun h => ?_, fun h => ?_⟩
  · simp only [List.forall_mem_cons]
    exact ⟨rfl, rfl, rfl, by simp⟩
  · have hne : Except.error (Failure.invalid "base" (.keyCollision "Base")) =
        .ok (Value.map ⟨[]⟩) := h
    cases hne
  · have hne : Except.error (Failure.invalid "attic.seats" (.keyCollision "seats")) =
        .ok (Value.map ⟨[("attic", .map ⟨[("floor", .null), ("seats", .int 3)]⟩)]⟩) := h
    cases hne
  · have hne : (Except.ok (Value.map ⟨[("base", .map ⟨[("floor", .null), ("seats", .int 10)]⟩)]⟩) :
        Except Failure Value) = .ok (.map ⟨[]⟩) := h
    cases hne

end Element

end ConfigSchema
