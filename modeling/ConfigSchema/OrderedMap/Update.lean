import ConfigSchema.OrderedMap

/-!
# Changes of insertion-ordered mappings

All that can be done to a mapping, as data, together with what each change gives back.

## Main definitions

- `Update` — the changes
- `OrderedMap.apply` — what a change gives back, and the mapping after it
-/

namespace ConfigSchema

/-- A change of a mapping. -/
inductive Update (α : Type) where
  /-- Sets the value of a key. The value from before is given back. -/
  | insert (key : String) (value : α)
  /-- Removes a key. Its value is given back. -/
  | erase (key : String)
  /-- Adds a value under a key that is new. The value under the key is given back, and may be
  changed. -/
  | getOrInsert (key : String) (init : α) (change : α → α)
  /-- Changes the value under a key. The value from before is given back. -/
  | modify (key : String) (change : α → α)
  /-- Changes all values. -/
  | rewrite (change : String → α → α)

namespace OrderedMap

variable {α β : Type}

/-- Changes every value in view of its key. -/
def rewrite (change : String → α → β) (m : OrderedMap α) : OrderedMap β :=
  ⟨m.entries.map fun (key, value) => (key, change key value)⟩

/-- What a change gives back, and the mapping after it. -/
def apply (m : OrderedMap α) : Update α → Option α × OrderedMap α
  | .insert key value => (m.get? key, m.insert key value)
  | .erase key => (m.get? key, m.erase key)
  | .getOrInsert key init change =>
      let grown := m.insertIfNew key init
      (grown.get? key, grown.modify key change)
  | .modify key change => (m.get? key, m.modify key change)
  | .rewrite change => (none, m.rewrite change)

end OrderedMap

end ConfigSchema
