import ConfigSchema.OrderedMap.Update
import Mathlib.Data.List.Nodup

/-!
# Laws of insertion-ordered mappings

What insertion does to the keys and to the entries of a mapping: an entry that is there is replaced
in place, and any other is appended.
-/

namespace ConfigSchema.OrderedMap

variable {α β : Type}

/-! ## Lists of entries -/

/-- An entry is passed over when another key is looked up. -/
theorem lookup_cons_of_ne {key other : String} (value : α) (entries : List (String × α))
    (h : other ≠ key) : ((key, value) :: entries).lookup other = entries.lookup other := by
  have hbeq : (other == key) = false := by simpa using h
  rw [List.lookup_cons, hbeq]

/-- Inserting under a key that is not there appends. -/
theorem insertEntry_of_not_mem {key : String} {value : α} {entries : List (String × α)}
    (h : key ∉ entries.map Prod.fst) :
    insertEntry key value entries = entries ++ [(key, value)] := by
  induction entries with
  | nil => rfl
  | cons entry rest ih =>
    obtain ⟨k, v⟩ := entry
    simp only [List.map_cons, List.mem_cons, not_or] at h
    have hk : (k == key) = false := by simpa using Ne.symm h.1
    simp [insertEntry, hk, ih h.2]

/-- Inserting what is there already changes nothing. -/
theorem insertEntry_of_lookup {key : String} {value : α} {entries : List (String × α)}
    (h : entries.lookup key = some value) : insertEntry key value entries = entries := by
  induction entries with
  | nil => simp at h
  | cons entry rest ih =>
    obtain ⟨k, v⟩ := entry
    by_cases hk : k = key
    · subst hk
      have hv : v = value := by simpa using h
      simp [insertEntry, hv]
    · rw [lookup_cons_of_ne v rest (Ne.symm hk)] at h
      simp [insertEntry, hk, ih h]

/-- Inserting under a key that is there keeps the keys. -/
theorem map_fst_insertEntry_of_mem {key : String} {value : α} {entries : List (String × α)}
    (h : key ∈ entries.map Prod.fst) :
    (insertEntry key value entries).map Prod.fst = entries.map Prod.fst := by
  induction entries with
  | nil => simp at h
  | cons entry rest ih =>
    obtain ⟨k, v⟩ := entry
    by_cases hk : k = key
    · simp [insertEntry, hk]
    · have hmem : key ∈ rest.map Prod.fst := by
        simp only [List.map_cons, List.mem_cons] at h
        exact h.resolve_left (Ne.symm hk)
      simp [insertEntry, hk, ih hmem]

theorem lookup_insertEntry (key other : String) (value : α) (entries : List (String × α)) :
    (insertEntry key value entries).lookup other =
      if other = key then some value else entries.lookup other := by
  induction entries with
  | nil =>
    by_cases h : other = key
    · simp [insertEntry, h]
    · simp [insertEntry, h, lookup_cons_of_ne value [] h]
  | cons entry rest ih =>
    obtain ⟨k, v⟩ := entry
    by_cases hk : k = key
    · subst hk
      by_cases h : other = k
      · simp [insertEntry, h]
      · simp [insertEntry, h, lookup_cons_of_ne _ rest h]
    · have hne : (k == key) = false := by simpa using hk
      simp only [insertEntry, hne, Bool.false_eq_true, if_false]
      by_cases h : other = k
      · subst h
        simp [hk]
      · rw [lookup_cons_of_ne _ _ h, lookup_cons_of_ne _ _ h, ih]

/-- In entries with distinct keys, each entry is found under its key. -/
theorem lookup_of_mem {entries : List (String × α)} (hd : (entries.map Prod.fst).Nodup)
    {key : String} {value : α} (h : (key, value) ∈ entries) :
    entries.lookup key = some value := by
  induction entries with
  | nil => simp at h
  | cons entry rest ih =>
    obtain ⟨k, v⟩ := entry
    simp only [List.map_cons, List.nodup_cons] at hd
    rcases List.mem_cons.mp h with heq | hmem
    · obtain ⟨rfl, rfl⟩ := Prod.mk.inj heq
      simp
    · have hne : key ≠ k := by
        rintro rfl
        exact hd.1 (List.mem_map_of_mem hmem)
      rw [lookup_cons_of_ne v rest hne]
      exact ih hd.2 hmem

/-- What is found under a key is an entry. -/
theorem mem_of_lookup {entries : List (String × α)} {key : String} {value : α}
    (h : entries.lookup key = some value) : (key, value) ∈ entries := by
  induction entries with
  | nil => simp at h
  | cons entry rest ih =>
    obtain ⟨k, v⟩ := entry
    by_cases hk : key = k
    · subst hk
      have hv : v = value := by simpa using h
      simp [hv]
    · rw [lookup_cons_of_ne v rest hk] at h
      exact List.mem_cons_of_mem _ (ih h)

/-- Exactly the keys of entries are found. -/
theorem lookup_eq_none_iff_not_mem {entries : List (String × α)} {key : String} :
    entries.lookup key = none ↔ key ∉ entries.map Prod.fst := by
  induction entries with
  | nil => simp
  | cons entry rest ih =>
    obtain ⟨k, v⟩ := entry
    by_cases hk : key = k
    · simp [hk]
    · rw [lookup_cons_of_ne v rest hk, ih, List.map_cons, List.mem_cons, not_or]
      simp [hk]

/-! ## Mappings -/

/-- The keys of a mapping are distinct. -/
def Distinct (m : OrderedMap α) : Prop := m.keys.Nodup

theorem contains_iff (m : OrderedMap α) (key : String) : m.contains key ↔ key ∈ m.keys := by
  simp [contains, keys]

theorem contains_eq_false_iff (m : OrderedMap α) (key : String) :
    m.contains key = false ↔ key ∉ m.keys := by
  rw [← contains_iff, Bool.not_eq_true]

theorem insert_of_not_mem {m : OrderedMap α} {key : String} {value : α} (h : key ∉ m.keys) :
    m.insert key value = ⟨m.entries ++ [(key, value)]⟩ := by
  simp only [insert, insertEntry_of_not_mem h]

theorem keys_insert_of_not_mem {m : OrderedMap α} {key : String} {value : α} (h : key ∉ m.keys) :
    (m.insert key value).keys = m.keys ++ [key] := by
  rw [insert_of_not_mem h]
  simp [keys]

theorem insert_of_get? {m : OrderedMap α} {key : String} {value : α}
    (h : m.get? key = some value) : m.insert key value = m := by
  simp only [insert, insertEntry_of_lookup h]

theorem keys_insert_of_mem {m : OrderedMap α} {key : String} {value : α} (h : key ∈ m.keys) :
    (m.insert key value).keys = m.keys := map_fst_insertEntry_of_mem h

theorem get?_insert (m : OrderedMap α) (key other : String) (value : α) :
    (m.insert key value).get? other = if other = key then some value else m.get? other :=
  lookup_insertEntry key other value m.entries

theorem get?_isSome_iff (m : OrderedMap α) (key : String) :
    (m.get? key).isSome ↔ key ∈ m.keys := by
  rw [← Option.ne_none_iff_isSome, Ne, get?, lookup_eq_none_iff_not_mem, not_not, keys]

theorem get?_eq_none_iff (m : OrderedMap α) (key : String) :
    m.get? key = none ↔ key ∉ m.keys := lookup_eq_none_iff_not_mem

/-- Inserting keeps the keys that are there. -/
theorem mem_keys_insert {m : OrderedMap α} {key other : String} (value : α)
    (h : other ∈ m.keys) : other ∈ (m.insert key value).keys := by
  rw [← get?_isSome_iff, get?_insert]
  split
  · rfl
  · exact (m.get?_isSome_iff other).mpr h

theorem mem_keys_insertMany {m : OrderedMap α} {key : String} (entries : List (String × α))
    (h : key ∈ m.keys) : key ∈ (m.insertMany entries).keys := by
  induction entries generalizing m with
  | nil => exact h
  | cons entry rest ih => exact ih (mem_keys_insert entry.2 h)

/-- Inserting leaves what is under other keys. -/
theorem get?_insertMany_of_not_mem {m : OrderedMap α} {key : String}
    {entries : List (String × α)} (h : key ∉ entries.map Prod.fst) :
    (m.insertMany entries).get? key = m.get? key := by
  induction entries generalizing m with
  | nil => rfl
  | cons entry rest ih =>
    rw [List.map_cons, List.mem_cons, not_or] at h
    calc (m.insertMany (entry :: rest)).get? key
        = (m.insert entry.1 entry.2).get? key := ih h.2
      _ = m.get? key := by rw [get?_insert, if_neg h.1]

/-- The keys after an insertion are those from before and those that are inserted. -/
theorem mem_keys_of_insertMany {m : OrderedMap α} {key : String} {entries : List (String × α)}
    (h : key ∈ (m.insertMany entries).keys) : key ∈ m.keys ∨ key ∈ entries.map Prod.fst := by
  by_cases hentries : key ∈ entries.map Prod.fst
  · exact .inr hentries
  · refine .inl ((m.get?_isSome_iff key).mp ?_)
    rw [← get?_insertMany_of_not_mem hentries]
    exact ((m.insertMany entries).get?_isSome_iff key).mpr h

theorem distinct_insert {m : OrderedMap α} (h : m.Distinct) (key : String) (value : α) :
    (m.insert key value).Distinct := by
  by_cases hkey : key ∈ m.keys
  · rwa [Distinct, keys_insert_of_mem hkey]
  · rw [Distinct, keys_insert_of_not_mem hkey, ← List.concat_eq_append]
    exact List.Nodup.concat hkey h

theorem distinct_insertMany {m : OrderedMap α} (h : m.Distinct) (entries : List (String × α)) :
    (m.insertMany entries).Distinct := by
  induction entries generalizing m with
  | nil => exact h
  | cons entry rest ih => exact ih (distinct_insert h entry.1 entry.2)

theorem mem_insertEntry {key : String} {value : α} {entries : List (String × α)}
    {entry : String × α} (h : entry ∈ insertEntry key value entries) :
    entry ∈ entries ∨ entry.2 = value := by
  induction entries with
  | nil =>
    obtain rfl := List.mem_singleton.mp h
    exact .inr rfl
  | cons other rest ih =>
    rw [insertEntry] at h
    split at h
    · rcases List.mem_cons.mp h with rfl | hmem
      · exact .inr rfl
      · exact .inl (List.mem_cons_of_mem _ hmem)
    · rcases List.mem_cons.mp h with rfl | hmem
      · exact .inl (List.mem_cons_self ..)
      · exact (ih hmem).imp_left (List.mem_cons_of_mem _)

/-- The values after an insertion are those from before and those that are inserted. -/
theorem mem_insertMany {m : OrderedMap α} {entries : List (String × α)} {entry : String × α}
    (h : entry ∈ (m.insertMany entries).entries) :
    entry ∈ m.entries ∨ ∃ key, (key, entry.2) ∈ entries := by
  induction entries generalizing m with
  | nil => exact .inl h
  | cons other rest ih =>
    rcases ih (m := m.insert other.1 other.2) h with hold | ⟨key, hkey⟩
    · rcases mem_insertEntry hold with hmem | hvalue
      · exact .inl hmem
      · exact .inr ⟨other.1, by rw [hvalue]; exact List.mem_cons_self ..⟩
    · exact .inr ⟨key, List.mem_cons_of_mem _ hkey⟩

/-- An entry is replaced where it stands, and what comes behind it stays. -/
theorem insertEntry_append_of_mem {key : String} {value : α} {entries more : List (String × α)}
    (h : key ∈ entries.map Prod.fst) :
    insertEntry key value (entries ++ more) = insertEntry key value entries ++ more := by
  induction entries with
  | nil => cases h
  | cons entry rest ih =>
    obtain ⟨k, v⟩ := entry
    rw [List.cons_append, insertEntry, insertEntry]
    by_cases hk : k = key
    · simp [hk]
    · have hrest : key ∈ rest.map Prod.fst := by
        rw [List.map_cons, List.mem_cons] at h
        exact h.resolve_left (Ne.symm hk)
      simp [hk, ih hrest]

/-- The keys after an insertion depend on the keys before it only. -/
theorem keys_insert_congr {m n : OrderedMap α} (h : m.keys = n.keys) (key : String) (a b : α) :
    (m.insert key a).keys = (n.insert key b).keys := by
  by_cases hkey : key ∈ m.keys
  · rw [keys_insert_of_mem hkey, keys_insert_of_mem (h ▸ hkey), h]
  · rw [keys_insert_of_not_mem hkey, keys_insert_of_not_mem (h ▸ hkey), h]

/-- Erasing takes the key out, and keeps the other entries in their order. -/
theorem entries_erase {m : OrderedMap α} (h : m.Distinct) (key : String) :
    (m.erase key).entries = m.entries.filter (·.1 ≠ key) := by
  obtain ⟨entries⟩ := m
  simp only [Distinct, erase, keys] at h ⊢
  induction entries with
  | nil => rfl
  | cons entry rest ih =>
    obtain ⟨hentry, hrest⟩ := List.nodup_cons.mp h
    by_cases hkey : entry.1 = key
    · -- no other entry has the key
      rw [List.eraseP_cons_of_pos (by simpa using hkey),
        List.filter_cons_of_neg (by simpa using hkey), eq_comm, List.filter_eq_self]
      intro other hother
      have hne : other.1 ≠ key := fun heq => hentry (hkey ▸ heq ▸ List.mem_map_of_mem hother)
      simpa using hne
    · rw [List.eraseP_cons_of_neg (by simpa using hkey),
        List.filter_cons_of_pos (by simpa using hkey), ih hrest]

theorem keys_erase {m : OrderedMap α} (h : m.Distinct) (key : String) :
    (m.erase key).keys = m.keys.filter (· ≠ key) := by
  rw [keys, keys, entries_erase h, List.filter_map]
  rfl

/-- An erased key is gone. -/
theorem not_mem_keys_erase {m : OrderedMap α} (h : m.Distinct) (key : String) :
    key ∉ (m.erase key).keys := by
  rw [keys_erase h]
  simp

/-- Under the other keys there is what was there. -/
theorem get?_erase_of_ne (m : OrderedMap α) {key other : String} (h : other ≠ key) :
    (m.erase key).get? other = m.get? other := by
  obtain ⟨entries⟩ := m
  simp only [get?, erase]
  induction entries with
  | nil => rfl
  | cons entry rest ih =>
    by_cases hkey : entry.1 = key
    · rw [List.eraseP_cons_of_pos (by simpa using hkey), lookup_cons_of_ne]
      rw [hkey]
      exact h
    · rw [List.eraseP_cons_of_neg (by simpa using hkey), List.lookup_cons, List.lookup_cons, ih]

/-- Erasing a key that is not there changes nothing. -/
theorem erase_of_not_mem {m : OrderedMap α} {key : String} (h : key ∉ m.keys) :
    m.erase key = m := by
  obtain ⟨entries⟩ := m
  rw [erase, List.eraseP_of_forall_not]
  intro entry hentry heq
  obtain rfl : entry.1 = key := by simpa using heq
  exact h (List.mem_map_of_mem hentry)

theorem keys_rewrite (m : OrderedMap α) (change : String → α → β) :
    (m.rewrite change).keys = m.keys := by
  simp [keys, rewrite, Function.comp_def]

theorem get?_rewrite (m : OrderedMap α) (change : String → α → β) (key : String) :
    (m.rewrite change).get? key = (m.get? key).map (change key) := by
  obtain ⟨entries⟩ := m
  simp only [get?, rewrite]
  induction entries with
  | nil => rfl
  | cons entry rest ih =>
    obtain ⟨name, value⟩ := entry
    rw [List.map_cons]
    by_cases hname : key = name
    · subst hname
      simp
    · rw [lookup_cons_of_ne _ _ hname, lookup_cons_of_ne _ _ hname, ih]

@[simp] theorem keys_mapValues (f : α → β) (m : OrderedMap α) : (m.mapValues f).keys = m.keys :=
  keys_rewrite m fun _ => f

theorem get?_mapValues (f : α → β) (m : OrderedMap α) (key : String) :
    (m.mapValues f).get? key = (m.get? key).map f := get?_rewrite m (fun _ => f) key

theorem erase_mapValues (f : α → β) (m : OrderedMap α) (key : String) :
    (m.mapValues f).erase key = (m.erase key).mapValues f := by
  obtain ⟨entries⟩ := m
  simp only [erase, mapValues]
  rw [List.eraseP_map]
  rfl

/-- Inserting entries with new and distinct keys appends them. -/
theorem insertMany_of_disjoint {m : OrderedMap α} {entries : List (String × α)}
    (hd : (entries.map Prod.fst).Nodup) (hm : ∀ key ∈ entries.map Prod.fst, key ∉ m.keys) :
    m.insertMany entries = ⟨m.entries ++ entries⟩ := by
  induction entries generalizing m with
  | nil => simp [insertMany]
  | cons entry rest ih =>
    obtain ⟨key, value⟩ := entry
    simp only [List.map_cons, List.nodup_cons] at hd
    have hkey : key ∉ m.keys := hm key (by simp)
    have hrest : ∀ other ∈ rest.map Prod.fst, other ∉ (m.insert key value).keys := by
      intro other hother
      rw [insert_of_not_mem hkey]
      have hne : other ≠ key := by
        rintro rfl
        exact hd.1 hother
      have hold : other ∉ m.keys := hm other (by simp [hother])
      simpa [keys, hne] using hold
    calc m.insertMany ((key, value) :: rest)
        = (m.insert key value).insertMany rest := rfl
      _ = ⟨(m.insert key value).entries ++ rest⟩ := ih hd.2 hrest
      _ = ⟨m.entries ++ (key, value) :: rest⟩ := by simp [insert_of_not_mem hkey]

/-- Inserting entries with distinct keys one after the other gives just these. -/
theorem ofList_of_nodup {entries : List (String × α)} (hd : (entries.map Prod.fst).Nodup) :
    ofList entries = ⟨entries⟩ := by
  have h := insertMany_of_disjoint (m := empty) hd (by simp [keys, empty])
  simpa [ofList, empty] using h

end ConfigSchema.OrderedMap
