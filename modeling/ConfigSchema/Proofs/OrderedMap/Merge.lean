import ConfigSchema.Proofs.OrderedMap
import Mathlib.Data.List.Basic

/-!
# Mappings on top of mappings

The entries of one mapping are put on top of another: what both have is combined, and what is new is
appended. The result is told by its keys, in order, and by what is found under them, so the laws of
the combination carry over.

## Main definitions

- `OrderedMap.mergeWith` — a mapping on top of another
- `OrderedMap.Related` — two mappings have related entries under the same keys

## Main statements

- `OrderedMap.keys_mergeWith`, `OrderedMap.get?_mergeWith` — the keys and the values
- `OrderedMap.mergeWith_assoc`, `OrderedMap.mergeWith_self` — the laws of the combination carry over
-/

namespace ConfigSchema.OrderedMap

variable {α : Type} {f : String → α → α → α}

/-- A mapping on top of another. Where both have a key, `f` combines the two values. -/
def mergeWith (f : String → α → α → α) (base overlay : OrderedMap α) : OrderedMap α :=
  overlay.entries.foldl (fun out (key, value) =>
    out.insert key (match out.get? key with
      | some existing => f key existing value
      | none => value)) base

/-- Whatever is under a key in one mapping, there is something under it in the other. -/
theorem exists_get? {m n : OrderedMap α} (hkeys : ∀ key ∈ m.keys, key ∈ n.keys) {key : String}
    {value : α} (h : m.get? key = some value) : ∃ other, n.get? key = some other := by
  rw [← Option.isSome_iff_exists, get?_isSome_iff]
  exact hkeys key ((m.get?_isSome_iff key).mp (by rw [h]; rfl))

/-- Mappings with the same keys in the same order have entries for entries. -/
theorem forall₂_entries {m n : OrderedMap α} (hm : m.Distinct) (hkeys : m.keys = n.keys) :
    List.Forall₂ (fun a b => a.1 = b.1 ∧ m.get? a.1 = some a.2 ∧ n.get? a.1 = some b.2)
      m.entries n.entries := by
  have hn : n.Distinct := by rwa [Distinct, ← hkeys]
  have hlength : m.entries.length = n.entries.length := by
    simpa [keys] using congrArg List.length hkeys
  refine List.forall₂_iff_get.mpr ⟨hlength, fun i hi hj => ?_⟩
  have hkey : m.entries[i].1 = n.entries[i].1 := by
    have hith := congrArg (·[i]?) hkeys
    simpa [keys, hi, hj] using hith
  refine ⟨hkey, lookup_of_mem hm (List.getElem_mem hi), ?_⟩
  rw [List.get_eq_getElem, hkey]
  exact lookup_of_mem hn (List.getElem_mem hj)

/-- Two mappings have entries under the same keys, in the same order, whose values are related. -/
def Related {β : Type} (R : String → α → β → Prop) (m : OrderedMap α) (n : OrderedMap β) : Prop :=
  List.Forall₂ (fun a b => a.1 = b.1 ∧ R a.1 a.2 b.2) m.entries n.entries

namespace Related

variable {β : Type} {R : String → α → β → Prop} {m : OrderedMap α} {n : OrderedMap β}

/-- What is found under a key on one side is related to what is found there on the other. -/
theorem lookup (h : m.Related R n) (key : String) :
    Option.Rel (R key) (m.get? key) (n.get? key) := by
  obtain ⟨as⟩ := m
  obtain ⟨bs⟩ := n
  simp only [Related, get?] at h ⊢
  induction h with
  | nil => exact .none
  | @cons a b _ _ hab _ ih =>
    obtain ⟨name, value⟩ := a
    obtain ⟨name', other⟩ := b
    obtain ⟨rfl, hvalue⟩ := hab
    rw [List.lookup_cons, List.lookup_cons]
    by_cases hkey : key = name
    · subst hkey
      rw [beq_self_eq_true]
      exact .some hvalue
    · rw [beq_false_of_ne hkey]
      exact ih

theorem exists_of_get? (h : m.Related R n) {key : String} {value : α}
    (hget : m.get? key = some value) : ∃ other, n.get? key = some other ∧ R key value other := by
  have hlookup := h.lookup key
  rw [hget] at hlookup
  cases hother : n.get? key with
  | none =>
    rw [hother] at hlookup
    cases hlookup
  | some other =>
    rw [hother] at hlookup
    obtain ⟨hvalue⟩ := hlookup
    exact ⟨other, rfl, hvalue⟩

theorem get?_eq_none (h : m.Related R n) {key : String} (hget : m.get? key = none) :
    n.get? key = none := by
  have hlookup := h.lookup key
  rw [hget] at hlookup
  cases hother : n.get? key with
  | none => rfl
  | some other =>
    rw [hother] at hlookup
    cases hlookup

theorem erase (h : m.Related R n) (key : String) : (m.erase key).Related R (n.erase key) := by
  obtain ⟨as⟩ := m
  obtain ⟨bs⟩ := n
  simp only [Related, OrderedMap.erase] at h ⊢
  induction h with
  | nil => exact .nil
  | @cons a b _ _ hab hrest ih =>
    rw [List.eraseP_cons, List.eraseP_cons, ← hab.1]
    cases a.1 == key with
    | true => exact hrest
    | false => exact .cons hab ih

end Related

/-- Mappings with the same keys, under which the same is found, are the same. -/
theorem eq_of_get? {m n : OrderedMap α} (hm : m.Distinct) (hkeys : m.keys = n.keys)
    (hget : ∀ key, m.get? key = n.get? key) : m = n := by
  have hentries : List.Forall₂ Eq m.entries n.entries := by
    refine (forall₂_entries hm hkeys).imp fun a b ⟨hkey, ha, hb⟩ => Prod.ext hkey ?_
    rw [hget, hb] at ha
    exact (Option.some.inj ha).symm
  rw [List.forall₂_eq_eq_eq] at hentries
  exact congrArg mk hentries

/-- Mappings with distinct keys and the same entries, in whatever order, have the same under each
key. -/
theorem get?_eq_of_mem_iff {m n : OrderedMap α} (hm : m.Distinct)
    (hn : n.Distinct) (h : ∀ entry, entry ∈ m.entries ↔ entry ∈ n.entries) (key : String) :
    m.get? key = n.get? key := by
  have hiff : ∀ value, m.get? key = some value ↔ n.get? key = some value := fun value =>
    ⟨fun hget => lookup_of_mem hn ((h _).mp (mem_of_lookup hget)),
      fun hget => lookup_of_mem hm ((h _).mpr (mem_of_lookup hget))⟩
  exact Option.ext hiff

theorem get?_mergeWith (base : OrderedMap α) {overlay : OrderedMap α} (hd : overlay.Distinct)
    (key : String) :
    (base.mergeWith f overlay).get? key =
      Option.merge (f key) (base.get? key) (overlay.get? key) := by
  obtain ⟨entries⟩ := overlay
  show OrderedMap.get? (List.foldl _ base entries) key = Option.merge (f key) _ (entries.lookup key)
  induction entries generalizing base with
  | nil => simp
  | cons entry rest ih =>
    obtain ⟨k, v⟩ := entry
    obtain ⟨hnew, hrest⟩ := List.nodup_cons.mp hd
    rw [List.foldl_cons, ih _ hrest, get?_insert]
    by_cases hkey : key = k
    · -- no later entry has the key
      subst hkey
      rw [if_pos rfl, lookup_eq_none_iff_not_mem.mpr hnew, Option.merge_none_right]
      cases base.get? key <;> simp
    · rw [if_neg hkey, lookup_cons_of_ne v rest hkey]

/-- The keys of the base come first, and then the new ones. -/
theorem keys_mergeWith (base : OrderedMap α) {overlay : OrderedMap α} (hd : overlay.Distinct) :
    (base.mergeWith f overlay).keys =
      base.keys ++ overlay.keys.filter fun key => !base.contains key := by
  obtain ⟨entries⟩ := overlay
  show OrderedMap.keys (List.foldl _ base entries) = _
  induction entries generalizing base with
  | nil => simp [keys]
  | cons entry rest ih =>
    obtain ⟨k, v⟩ := entry
    obtain ⟨hnew, hrest⟩ := List.nodup_cons.mp hd
    rw [List.foldl_cons, ih _ hrest]
    show _ = base.keys ++ List.filter _ (k :: rest.map Prod.fst)
    by_cases hkey : k ∈ base.keys
    · have hsame : ∀ value other, (base.insert k value).contains other = base.contains other := by
        intro value other
        rw [Bool.eq_iff_iff, contains_iff, contains_iff, keys_insert_of_mem hkey]
      rw [keys_insert_of_mem hkey, List.filter_cons_of_neg (by simpa [contains_iff] using hkey)]
      simp only [hsame]
      rfl
    · have hkeys : ∀ value, (base.insert k value).keys = base.keys ++ [k] := fun value =>
        keys_insert_of_not_mem hkey
      have hsame : ∀ value, ∀ other ∈ rest.map Prod.fst,
          (!(base.insert k value).contains other) = !base.contains other := by
        intro value other hother
        have hne : other ≠ k := fun heq => hnew (heq ▸ hother)
        rw [Bool.eq_iff_iff, Bool.not_eq_true', Bool.not_eq_true', contains_eq_false_iff,
          contains_eq_false_iff, hkeys]
        simp [hne]
      have hfresh : (!base.contains k) = true := by
        rw [(base.contains_eq_false_iff k).mpr hkey]
        rfl
      rw [hkeys, List.filter_cons_of_pos (by exact hfresh), List.append_assoc]
      exact congrArg (base.keys ++ k :: ·) (List.filter_congr (hsame _))

theorem mem_keys_mergeWith (base : OrderedMap α) {overlay : OrderedMap α} (hd : overlay.Distinct)
    (key : String) :
    key ∈ (base.mergeWith f overlay).keys ↔ key ∈ base.keys ∨ key ∈ overlay.keys := by
  rw [keys_mergeWith base hd, List.mem_append, List.mem_filter]
  by_cases hkey : key ∈ base.keys
  · simp [hkey]
  · simp [hkey, contains_eq_false_iff]

theorem distinct_mergeWith {base : OrderedMap α} (h : base.Distinct) (overlay : OrderedMap α) :
    (base.mergeWith f overlay).Distinct := by
  obtain ⟨entries⟩ := overlay
  show OrderedMap.Distinct (List.foldl _ base entries)
  induction entries generalizing base with
  | nil => exact h
  | cons entry rest ih => exact ih (distinct_insert h entry.1 _)

/-- Three mappings can be put on top of each other in either order, if their values can. -/
theorem mergeWith_assoc {a b c : OrderedMap α} (ha : a.Distinct) (hb : b.Distinct)
    (hc : c.Distinct)
    (hf : ∀ key x y z, a.get? key = some x → b.get? key = some y → c.get? key = some z →
      f key (f key x y) z = f key x (f key y z)) :
    (a.mergeWith f b).mergeWith f c = a.mergeWith f (b.mergeWith f c) := by
  have hbc : (b.mergeWith f c).Distinct := distinct_mergeWith hb c
  refine eq_of_get? (distinct_mergeWith (distinct_mergeWith ha b) c) ?_ ?_
  · have hnew : ∀ key, (!(a.mergeWith f b).contains key) =
        (!a.contains key && !b.contains key) := by
      intro key
      rw [Bool.eq_iff_iff]
      simp [contains_eq_false_iff, mem_keys_mergeWith a hb]
    rw [keys_mergeWith _ hc, keys_mergeWith a hb, keys_mergeWith a hbc, keys_mergeWith b hc,
      List.filter_append, List.filter_filter, List.append_assoc]
    simp only [hnew]
  · intro key
    rw [get?_mergeWith _ hc, get?_mergeWith a hb, get?_mergeWith a hbc, get?_mergeWith b hc]
    -- a key that one of the three lacks leaves two values to combine, or fewer
    cases hx : a.get? key with
    | none => simp
    | some x =>
      cases hy : b.get? key with
      | none => simp
      | some y =>
        cases hz : c.get? key with
        | none => simp
        | some z => simp [Option.merge, hf key x y z hx hy hz]

/-- A mapping on top of itself is the mapping, if its values are. -/
theorem mergeWith_self {a : OrderedMap α} (ha : a.Distinct)
    (hf : ∀ key x, a.get? key = some x → f key x x = x) : a.mergeWith f a = a := by
  have hloop : ∀ entries, entries ⊆ a.entries → a.mergeWith f ⟨entries⟩ = a := by
    intro entries
    induction entries with
    | nil => intro _; rfl
    | cons entry rest ih =>
      intro hsub
      obtain ⟨key, value⟩ := entry
      have hget : a.get? key = some value := lookup_of_mem ha (hsub List.mem_cons_self)
      have hstep : a.mergeWith f ⟨(key, value) :: rest⟩ =
          (a.insert key (match a.get? key with
            | some existing => f key existing value
            | none => value)).mergeWith f ⟨rest⟩ := rfl
      rw [hstep, hget]
      dsimp only
      rw [hf key value hget, insert_of_get? hget]
      exact ih fun entry hentry => hsub (List.mem_cons_of_mem _ hentry)
  exact hloop a.entries (List.Subset.refl _)

/-! ## Entries inserted into mappings -/

/-- Inserting entries is putting them on top, where they replace what is there. -/
theorem insertMany_eq_mergeWith (base overlay : OrderedMap α) :
    base.insertMany overlay.entries = base.mergeWith (fun _ _ value => value) overlay := by
  rw [insertMany, mergeWith]
  congr 1
  funext out entry
  cases hget : out.get? entry.1 <;> simp only [hget]

theorem get?_insertMany (base : OrderedMap α) {overlay : OrderedMap α} (h : overlay.Distinct)
    (key : String) :
    (base.insertMany overlay.entries).get? key = (overlay.get? key).or (base.get? key) := by
  rw [insertMany_eq_mergeWith, get?_mergeWith base h]
  cases base.get? key <;> cases overlay.get? key <;> rfl

theorem keys_insertMany (base : OrderedMap α) {overlay : OrderedMap α} (h : overlay.Distinct) :
    (base.insertMany overlay.entries).keys =
      base.keys ++ overlay.keys.filter fun key => !base.contains key := by
  rw [insertMany_eq_mergeWith, keys_mergeWith base h]

/-- What entries inserted into a mapping give: these, and those under other keys. -/
theorem mem_insertMany_iff {base overlay : OrderedMap α}
    (hbase : base.Distinct) (hoverlay : overlay.Distinct) (entry : String × α) :
    entry ∈ (base.insertMany overlay.entries).entries ↔
      entry ∈ overlay.entries ∨ entry ∈ base.entries ∧ entry.1 ∉ overlay.keys := by
  have hmem : ∀ {m : OrderedMap α}, m.Distinct →
      (entry ∈ m.entries ↔ m.get? entry.1 = some entry.2) := fun hm =>
    ⟨fun h => lookup_of_mem hm h, fun h => mem_of_lookup h⟩
  rw [hmem (distinct_insertMany hbase _), get?_insertMany base hoverlay, Option.or_eq_some_iff,
    hmem hoverlay, hmem hbase, get?_eq_none_iff, and_comm (a := entry.1 ∉ _)]

theorem filter_insertEntry (p : String → Bool) (key : String) (value : α)
    (entries : List (String × α)) :
    (insertEntry key value entries).filter (fun entry => p entry.1) =
      if p key then insertEntry key value (entries.filter fun entry => p entry.1)
      else entries.filter fun entry => p entry.1 := by
  induction entries with
  | nil => simp [insertEntry, List.filter_cons]
  | cons entry rest ih =>
    obtain ⟨name, old⟩ := entry
    by_cases hname : name = key
    · subst hname
      cases hp : p name <;> simp [insertEntry, hp]
    · have hne : (name == key) = false := beq_false_of_ne hname
      cases hp : p name <;> cases hk : p key <;>
        simp_all [insertEntry]

/-- Erasing a key that is none of these changes nothing about their entries. -/
theorem filter_erase (p : String → Bool) (m : OrderedMap α) {key : String} (h : p key = false) :
    (m.erase key).entries.filter (fun entry => p entry.1) =
      m.entries.filter fun entry => p entry.1 := by
  obtain ⟨entries⟩ := m
  simp only [erase]
  induction entries with
  | nil => rfl
  | cons entry rest ih =>
    by_cases hkey : entry.1 = key
    · rw [List.eraseP_cons_of_pos (by simpa using hkey),
        List.filter_cons_of_neg (by simp [hkey, h])]
    · rw [List.eraseP_cons_of_neg (by simpa using hkey), List.filter_cons, List.filter_cons, ih]

/-- The entries under some of the keys, of a mapping and of what is inserted into it. -/
theorem filter_insertMany (p : String → Bool) (m : OrderedMap α) (entries : List (String × α)) :
    (m.insertMany entries).entries.filter (fun entry => p entry.1) =
      ((⟨m.entries.filter fun entry => p entry.1⟩ : OrderedMap α).insertMany
        (entries.filter fun entry => p entry.1)).entries := by
  induction entries generalizing m with
  | nil => rfl
  | cons entry rest ih =>
    obtain ⟨key, value⟩ := entry
    have hstep : (m.insertMany ((key, value) :: rest)).entries.filter (fun entry => p entry.1) =
        ((m.insert key value).insertMany rest).entries.filter (fun entry => p entry.1) := rfl
    rw [hstep, ih, insert, filter_insertEntry, List.filter_cons]
    cases p key <;> rfl

end ConfigSchema.OrderedMap
