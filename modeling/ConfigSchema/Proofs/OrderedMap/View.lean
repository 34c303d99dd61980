import ConfigSchema.OrderedMap.Update
import ConfigSchema.Proofs.OrderedMap
import Mathlib.Logic.Function.Basic

/-!
# Mappings as an order of keys and a function

An insertion-ordered mapping is told by the order of its keys and by what is found under a key. All
changes can be made on these two, and every view of a mapping can be read from them.

## Main definitions

- `OrderedMap.View` — an order of keys, and what is found under a key
- `OrderedMap.View.apply` — what a change gives back, and the view after it
- `Update.run` — what changes give back one after the other, and what they end in
- `OrderedMap.Shows` — a mapping has the keys of a view in their order, and its values

## Main statements

- `OrderedMap.Shows.apply` — a change keeps that a mapping shows a view
- `OrderedMap.Shows.run` — so do changes one after the other
- `OrderedMap.run_ofList` — mappings and views cannot be told apart, whatever is done to them
-/

namespace ConfigSchema

/-- What changes give back one after the other, and what they end in. -/
def Update.run {α σ : Type} (step : σ → Update α → Option α × σ) :
    (state : σ) → List (Update α) → List (Option α) × σ
  | state, [] => ([], state)
  | state, update :: rest =>
      let (answer, next) := step state update
      let (answers, last) := run step next rest
      (answer :: answers, last)

namespace OrderedMap

variable {α : Type}

/-- The keys of a mapping in their order, and what is found under a key. -/
structure View (α : Type) where
  order : List String
  lookup : String → Option α

namespace View

/-- No keys. -/
def empty : View α := ⟨[], fun _ => none⟩

/-- A new key comes last, and any other stays where it is. -/
def insert (view : View α) (key : String) (value : α) : View α where
  order := if key ∈ view.order then view.order else view.order ++ [key]
  lookup := Function.update view.lookup key (some value)

/-- The other keys keep their order. -/
def erase (view : View α) (key : String) : View α where
  order := view.order.filter (· ≠ key)
  lookup := Function.update view.lookup key none

/-- The keys stay, and one has another value. -/
def modify (view : View α) (key : String) (change : α → α) : View α :=
  { view with lookup := Function.update view.lookup key ((view.lookup key).map change) }

/-- The keys stay, and have other values. -/
def rewrite (view : View α) (change : String → α → α) : View α :=
  { view with lookup := fun key => (view.lookup key).map (change key) }

/-- What a change gives back, and the view after it. -/
def apply (view : View α) : Update α → Option α × View α
  | .insert key value => (view.lookup key, view.insert key value)
  | .erase key => (view.lookup key, view.erase key)
  | .getOrInsert key init change =>
      let value := (view.lookup key).getD init
      (some value, view.insert key (change value))
  | .modify key change => (view.lookup key, view.modify key change)
  | .rewrite change => (none, view.rewrite change)

/-- Inserts all entries of a list, from the first to the last. -/
def insertMany (view : View α) (entries : List (String × α)) : View α :=
  entries.foldl (fun acc (key, value) => acc.insert key value) view

/-- The view after inserting the entries of a list one after the other. -/
def ofList (entries : List (String × α)) : View α := empty.insertMany entries

/-- The keys with their values, in order. -/
def entries (view : View α) : List (String × α) :=
  view.order.filterMap fun key => (view.lookup key).map (key, ·)

/-- The values, in the order of their keys. -/
def values (view : View α) : List α := view.order.filterMap view.lookup

theorem map_snd_entries (view : View α) : view.entries.map Prod.snd = view.values := by
  rw [entries, values, List.map_filterMap]
  simp [Function.comp_def]

theorem lookup_insert (view : View α) (key other : String) (value : α) :
    (view.insert key value).lookup other =
      if other = key then some value else view.lookup other :=
  Function.update_apply ..

theorem lookup_erase (view : View α) (key other : String) :
    (view.erase key).lookup other = if other = key then none else view.lookup other :=
  Function.update_apply ..

theorem lookup_modify (view : View α) (key other : String) (change : α → α) :
    (view.modify key change).lookup other =
      if other = key then (view.lookup key).map change else view.lookup other :=
  Function.update_apply ..

end View

/-- The mapping has the keys of a view, in their order, and its values. -/
structure Shows (m : OrderedMap α) (view : View α) : Prop where
  distinct : m.Distinct
  keys : m.keys = view.order
  get? : ∀ key, m.get? key = view.lookup key

/-! ## Changes of a mapping -/

theorem get?_erase {m : OrderedMap α} (hm : m.Distinct) (key other : String) :
    (m.erase key).get? other = if other = key then none else m.get? other := by
  split
  · rename_i heq
    rw [heq, get?_eq_none_iff]
    exact not_mem_keys_erase hm key
  · exact get?_erase_of_ne m ‹_›

theorem get?_modify (m : OrderedMap α) (key other : String) (change : α → α) :
    (m.modify key change).get? other =
      if other = key then (m.get? key).map change else m.get? other := by
  rw [modify]
  split
  · rename_i hget
    rw [get?_insert, hget, Option.map_some]
  · rename_i hget
    split
    · rename_i heq
      rw [heq, hget, Option.map_none]
    · rfl

theorem keys_modify (m : OrderedMap α) (key : String) (change : α → α) :
    (m.modify key change).keys = m.keys := by
  rw [modify]
  split
  · rename_i hget
    exact keys_insert_of_mem ((m.get?_isSome_iff key).mp (by rw [hget]; rfl))
  · rfl

theorem get?_insertIfNew (m : OrderedMap α) (key other : String) (init : α) :
    (m.insertIfNew key init).get? other =
      if other = key then some ((m.get? key).getD init) else m.get? other := by
  rw [insertIfNew]
  split
  · rename_i hkey
    rw [contains_iff, ← get?_isSome_iff, Option.isSome_iff_exists] at hkey
    obtain ⟨value, hvalue⟩ := hkey
    split
    · rename_i heq
      rw [heq, hvalue, Option.getD_some]
    · rfl
  · rename_i hkey
    rw [contains_iff, ← get?_eq_none_iff] at hkey
    rw [get?_insert, hkey, Option.getD_none]

theorem keys_insertIfNew (m : OrderedMap α) (key : String) (init value : α) :
    (m.insertIfNew key init).keys = (m.insert key value).keys := by
  rw [insertIfNew]
  split
  · exact (keys_insert_of_mem ((m.contains_iff key).mp ‹_›)).symm
  · exact keys_insert_congr rfl key init value

/-! ## Mappings show views -/

namespace Shows

variable {m : OrderedMap α} {view : View α}

theorem empty : Shows (.empty : OrderedMap α) .empty where
  distinct := List.nodup_nil
  keys := rfl
  get? _ := rfl

theorem insert (h : m.Shows view) (key : String) (value : α) :
    (m.insert key value).Shows (view.insert key value) where
  distinct := distinct_insert h.distinct key value
  keys := by
    rw [View.insert, ← h.keys]
    split
    · exact keys_insert_of_mem ‹_›
    · exact keys_insert_of_not_mem ‹_›
  get? other := by
    rw [get?_insert, View.lookup_insert, h.get?]

theorem erase (h : m.Shows view) (key : String) : (m.erase key).Shows (view.erase key) where
  distinct := by
    rw [Distinct, keys_erase h.distinct]
    exact h.distinct.filter _
  keys := by rw [keys_erase h.distinct, View.erase, h.keys]
  get? other := by rw [get?_erase h.distinct, View.lookup_erase, h.get?]

theorem modify (h : m.Shows view) (key : String) (change : α → α) :
    (m.modify key change).Shows (view.modify key change) where
  distinct := by
    rw [Distinct, keys_modify]
    exact h.distinct
  keys := by rw [keys_modify, h.keys, View.modify]
  get? other := by rw [get?_modify, View.lookup_modify, h.get?, h.get?]

theorem rewrite (h : m.Shows view) (change : String → α → α) :
    (m.rewrite change).Shows (view.rewrite change) where
  distinct := by
    rw [Distinct, keys_rewrite]
    exact h.distinct
  keys := by rw [keys_rewrite, h.keys, View.rewrite]
  get? other := by rw [get?_rewrite, View.rewrite, h.get?]

/-- A value that is added if its key is new, and then changed, is inserted as it is after the
change. -/
theorem getOrInsert (h : m.Shows view) (key : String) (init : α) (change : α → α) :
    ((m.insertIfNew key init).modify key change).Shows
      (view.insert key (change ((view.lookup key).getD init))) := by
  have hinsert := h.insert key (change ((view.lookup key).getD init))
  have hkeys : ((m.insertIfNew key init).modify key change).keys =
      (view.insert key (change ((view.lookup key).getD init))).order := by
    rw [keys_modify, ← hinsert.keys]
    exact m.keys_insertIfNew key init _
  refine ⟨?_, hkeys, fun other => ?_⟩
  · rw [Distinct, hkeys, ← hinsert.keys]
    exact hinsert.distinct
  · rw [get?_modify, get?_insertIfNew, get?_insertIfNew, if_pos rfl, View.lookup_insert, h.get?,
      h.get?]
    split
    · rfl
    · rfl

/-- A change gives back the same for a mapping and its view, and the mapping after it shows the view
after it. -/
theorem apply (h : m.Shows view) (update : Update α) :
    (m.apply update).1 = (view.apply update).1 ∧
      (m.apply update).2.Shows (view.apply update).2 := by
  cases update with
  | insert key value => exact ⟨h.get? key, h.insert key value⟩
  | erase key => exact ⟨h.get? key, h.erase key⟩
  | getOrInsert key init change =>
    refine ⟨?_, h.getOrInsert key init change⟩
    calc (m.insertIfNew key init).get? key
        = some ((m.get? key).getD init) := by rw [get?_insertIfNew, if_pos rfl]
      _ = some ((view.lookup key).getD init) := by rw [h.get?]
  | modify key change => exact ⟨h.get? key, h.modify key change⟩
  | rewrite change => exact ⟨rfl, h.rewrite change⟩

/-- Changes one after the other give back the same for a mapping and its view, and the mapping they
end in shows the view they end in. -/
theorem run (h : m.Shows view) (updates : List (Update α)) :
    (Update.run OrderedMap.apply m updates).1 = (Update.run View.apply view updates).1 ∧
      (Update.run OrderedMap.apply m updates).2.Shows (Update.run View.apply view updates).2 := by
  induction updates generalizing m view with
  | nil => exact ⟨rfl, h⟩
  | cons update rest ih =>
    obtain ⟨hanswer, hnext⟩ := h.apply update
    obtain ⟨hanswers, hlast⟩ := ih hnext
    exact ⟨congrArg₂ List.cons hanswer hanswers, hlast⟩

theorem insertMany (h : m.Shows view) (entries : List (String × α)) :
    (m.insertMany entries).Shows (view.insertMany entries) := by
  induction entries generalizing m view with
  | nil => exact h
  | cons entry rest ih => exact ih (h.insert entry.1 entry.2)

/-- Each key is found, so the entries can be read off the view. -/
theorem entries (h : m.Shows view) : m.entries = view.entries := by
  have hfound : ∀ entry ∈ m.entries, (view.lookup entry.1).map (entry.1, ·) = some entry := by
    intro entry hentry
    rw [← h.get?, OrderedMap.get?, lookup_of_mem h.distinct hentry, Option.map_some]
  calc m.entries
      = m.entries.filterMap some := List.filterMap_some.symm
    _ = m.entries.filterMap fun entry => (view.lookup entry.1).map (entry.1, ·) :=
        (List.filterMap_congr hfound).symm
    _ = m.keys.filterMap fun key => (view.lookup key).map (key, ·) := by
        rw [OrderedMap.keys, List.filterMap_map]
        rfl
    _ = view.entries := by rw [h.keys, View.entries]

end Shows

/-! ## Runs -/

/-- Whatever is done to the mapping of a list, the changes give back what they give back for its
view, no key is there twice, and every way to look at the mapping shows the view that the same
changes end in. -/
theorem run_ofList (start : List (String × α)) (updates : List (Update α)) :
    let (answers, last) := Update.run OrderedMap.apply (ofList start) updates
    let (shown, view) := Update.run View.apply (View.ofList start) updates
    answers = shown ∧ last.keys.Nodup ∧ last.keys = view.order ∧ last.values = view.values ∧
      last.entries = view.entries ∧ last.size = view.order.length ∧
      last.isEmpty = view.order.isEmpty ∧
      ∀ key, last.get? key = view.lookup key ∧ (last.contains key ↔ key ∈ view.order) := by
  obtain ⟨hanswers, hshows⟩ := (Shows.empty.insertMany start).run updates
  have hvalues := (congrArg (List.map Prod.snd) hshows.entries).trans (View.map_snd_entries _)
  have hsize := congrArg List.length hshows.keys
  have hempty := congrArg List.isEmpty hshows.keys
  rw [keys, List.length_map] at hsize
  rw [keys, List.isEmpty_map] at hempty
  refine ⟨hanswers, hshows.distinct, hshows.keys, hvalues, hshows.entries, hsize, hempty,
    fun key => ⟨hshows.get? key, ?_⟩⟩
  rw [contains_iff]
  exact iff_of_eq (congrArg (key ∈ ·) hshows.keys)

end OrderedMap

end ConfigSchema
