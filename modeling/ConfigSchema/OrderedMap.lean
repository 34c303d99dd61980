/-!
# Insertion-ordered mappings

`OrderedMap α` assigns values to string keys and remembers the order in which the keys first
arrived. Documents, sections and schemas with free keys are all read and written in this order.

## Main definitions

- `OrderedMap` — the entries, in insertion order
- `OrderedMap.insert`, `OrderedMap.erase`, `OrderedMap.modify` — updates that keep the order
- `OrderedMap.get?`, `OrderedMap.keys`, `OrderedMap.values` — views

## Design notes

The entries are a plain list, so that a mapping can occur inside the document type it holds.
Every mapping reached from `OrderedMap.empty` by these operations has distinct keys, because
`insert` replaces the value of a key that is already there.
-/

namespace ConfigSchema

/-- Values under string keys, in the order in which the keys were first inserted. -/
structure OrderedMap (α : Type) where
  entries : List (String × α) := []

namespace OrderedMap

variable {α β : Type}

/-- The mapping without entries. -/
def empty : OrderedMap α := ⟨[]⟩

instance : Inhabited (OrderedMap α) := ⟨empty⟩

/-- The number of entries. -/
def size (m : OrderedMap α) : Nat := m.entries.length

/-- Whether there is no entry. -/
def isEmpty (m : OrderedMap α) : Bool := m.entries.isEmpty

/-- The keys, in order. -/
def keys (m : OrderedMap α) : List String := m.entries.map Prod.fst

/-- The values, in the order of their keys. -/
def values (m : OrderedMap α) : List α := m.entries.map Prod.snd

/-- The value under `key`. -/
def get? (m : OrderedMap α) (key : String) : Option α := m.entries.lookup key

/-- Whether `key` has an entry. -/
def contains (m : OrderedMap α) (key : String) : Bool := m.entries.any (·.1 == key)

/-- Replaces the value of the first entry under `key`, or appends an entry. -/
def insertEntry (key : String) (value : α) : List (String × α) → List (String × α)
  | [] => [(key, value)]
  | (k, v) :: rest => if k == key then (k, value) :: rest else (k, v) :: insertEntry key value rest

/-- Sets the value of `key`: in place when the key is present, at the end otherwise. -/
def insert (m : OrderedMap α) (key : String) (value : α) : OrderedMap α :=
  ⟨insertEntry key value m.entries⟩

/-- Removes the entry under `key`; the other entries keep their order. -/
def erase (m : OrderedMap α) (key : String) : OrderedMap α :=
  ⟨m.entries.eraseP (·.1 == key)⟩

/-- Adds `value` under `key` unless the key is present. -/
def insertIfNew (m : OrderedMap α) (key : String) (value : α) : OrderedMap α :=
  if m.contains key then m else m.insert key value

/-- Applies `f` to the value under `key`; without such an entry nothing changes. -/
def modify (m : OrderedMap α) (key : String) (f : α → α) : OrderedMap α :=
  match m.get? key with
  | some value => m.insert key (f value)
  | none => m

/-- Applies `f` to every value. -/
def mapValues (f : α → β) (m : OrderedMap α) : OrderedMap β :=
  ⟨m.entries.map fun (key, value) => (key, f value)⟩

/-- Inserts all entries of a list, from the first to the last. -/
def insertMany (m : OrderedMap α) (entries : List (String × α)) : OrderedMap α :=
  entries.foldl (fun acc (key, value) => acc.insert key value) m

/-- The mapping that results from inserting the entries of a list one after the other. -/
def ofList (entries : List (String × α)) : OrderedMap α := empty.insertMany entries

end OrderedMap

end ConfigSchema
