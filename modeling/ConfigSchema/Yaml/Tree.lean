/-!
# Document trees

What a YAML document denotes: scalars with their resolved type, sequences, mappings with any keys,
and nodes under a tag of their own.

## Main definitions

- `Tree` — the tree
- `Tree.sameAs` — the equality that decides whether two keys of a mapping are the same
-/

namespace ConfigSchema.Yaml

/-- A node of a document. -/
inductive Tree where
  | null
  | bool (flag : Bool)
  | int (number : Int)
  | float (number : Float)
  | str (text : String)
  | seq (items : List Tree)
  | map (entries : List (Tree × Tree))
  | tagged (name : String) (content : Tree)

instance : Inhabited Tree := ⟨.null⟩

/-- Equality of floats as keys: not a number equals itself. -/
def sameFloat (a b : Float) : Bool := a == b || (a.isNaN && b.isNaN)

/-- The part of a tag that counts for equality: an exclamation mark before a name does not. -/
def tagCore (name : String) : String :=
  match name.toList with
  | '!' :: c :: cs => .ofList (c :: cs)
  | _ => name

namespace Tree

mutual

/-- Equality of trees. Integers differ from floats, and the order of a mapping does not count. -/
def sameAs : Tree → Tree → Bool
  | null, null => true
  | bool a, bool b => a == b
  | int a, int b => a == b
  | float a, float b => sameFloat a b
  | str a, str b => a == b
  | seq as, seq bs => sameItems as bs
  | map as, map bs => as.length == bs.length && entriesAmong as bs
  | tagged m a, tagged n b => tagCore m == tagCore n && a.sameAs b
  | _, _ => false
termination_by structural a => a

/-- Equality of item lists, item by item. -/
def sameItems : List Tree → List Tree → Bool
  | [], [] => true
  | a :: as, b :: bs => a.sameAs b && sameItems as bs
  | _, _ => false
termination_by structural as => as

/-- Whether each entry of the first list has an equal one in the second. -/
def entriesAmong : List (Tree × Tree) → List (Tree × Tree) → Bool
  | [], _ => true
  | (k, a) :: as, bs => bs.any (fun (l, b) => k.sameAs l && a.sameAs b) && entriesAmong as bs
termination_by structural as => as

end

end Tree

end ConfigSchema.Yaml
