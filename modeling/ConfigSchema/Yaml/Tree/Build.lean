import ConfigSchema.Yaml.NodeEvent.Grammar
import ConfigSchema.Yaml.NodeEvent.Link
import ConfigSchema.Yaml.Token.Lexer
import ConfigSchema.Yaml.Tree.Scalar

/-!
# From text to trees

The tree of a document is built from its linked events. Collections may nest 128 deep, aliases may
be followed a hundred times as often as there are events, and the keys of a mapping must differ.

## Main definitions

- `Tree.ofEvents?` — the tree of linked events
- `Tree.ofText?` — the tree of a text

## Design notes

A fault in the text is reported only when building comes to it, so that a repeated key before it
is reported first. A tag that starts with an exclamation mark puts its node under a `Tree.tagged`.
-/

namespace ConfigSchema.Yaml

/-- How deep collections may nest. -/
def maxDepth : Nat := 128

/-- What building a tree works with throughout a document. -/
structure Blueprint where
  linked : LinkedEvents
  /-- What is reported when the events end too early. -/
  cut : Fault
  /-- How many aliases may be followed. -/
  maxJumps : Nat

/-- The name under which a tag puts its node: what follows the exclamation mark at its start, or
the mark itself if it stands alone. Tags that are not UTF-8 put their node under no name. -/
def localTag? : Option Octets → Option String
  | some (0x21 :: c :: cs) => String.fromUTF8? ⟨(c :: cs).toArray⟩
  | some [0x21] => some "!"
  | _ => none

/-- The type that a tag demands of a scalar. -/
def coreType? (tag : Octets) : Option CoreType :=
  if tag == octetsOf "tag:yaml.org,2002:bool" then some .bool
  else if tag == octetsOf "tag:yaml.org,2002:int" then some .int
  else if tag == octetsOf "tag:yaml.org,2002:float" then some .float
  else if tag == octetsOf "tag:yaml.org,2002:null" then some .null
  else none

/-- The value of a scalar; `tag` is its tag, if that does not put it under a name. -/
def scalarTree (mark : Mark) (tag : Option Octets) (text : String) (plain : Bool) :
    Except Fault Tree :=
  let untyped :=
    if plain && tag.all (·.head? == some 0x21) then
      (resolvePlain text).elim (.error (.at mark .integerTooLarge)) .ok
    else
      .ok (.str text)
  match tag.bind coreType? with
  | some type => (resolveTagged type text).elim (.error (.at mark .scalarKindMismatch)) .ok
  | none => untyped

/-- A built node, the number of aliases followed so far, and the events after the node. -/
abbrev Built (α : Type) := α × Nat × List LinkedEvent

/-- Puts a node under a name, if there is one. -/
def wrapTag (name? : Option String) (content : Tree) : Tree :=
  match name? with
  | some name => .tagged name content
  | none => content

namespace Blueprint

mutual

/-- Builds the node at the start of the events. `depth` is how many levels of collections are left,
and `jumps` is how many aliases have been followed. -/
def node (plan : Blueprint) : (fuel depth : Nat) → (jumps : Nat) → List LinkedEvent →
    Except Fault (Built Tree)
  | 0, _, _, _ => .error plan.cut
  | _ + 1, _, _, [] => .error plan.cut
  | fuel + 1, depth, jumps, ⟨event, mark⟩ :: rest =>
      match event with
      | .alias number =>
          if plan.maxJumps < jumps + 1 then
            .error .repetition
          else do
            let (tree, jumps, _) ← plan.node fuel depth (jumps + 1) (plan.linked.target number)
            return (tree, jumps, rest)
      | .scalar labels text plain => do
          let name? := localTag? labels.tag
          let tag := if name?.isSome then none else labels.tag
          let tree ← scalarTree mark tag text plain
          return (wrapTag name? tree, jumps, rest)
      | .sequenceStart labels =>
          match depth with
          | 0 => .error (.at mark .nestedTooDeeply)
          | depth + 1 => do
              let (items, jumps, rest) ← plan.items fuel depth [] jumps rest
              return (wrapTag (localTag? labels.tag) (.seq items), jumps, rest)
      | .mappingStart labels =>
          match depth with
          | 0 => .error (.at mark .nestedTooDeeply)
          | depth + 1 => do
              let (entries, jumps, rest) ← plan.entries fuel depth mark [] jumps rest
              return (wrapTag (localTag? labels.tag) (.map entries), jumps, rest)
      | .sequenceEnd => .error plan.cut
      | .mappingEnd => .error plan.cut
termination_by structural fuel => fuel

/-- Builds the items of a sequence up to its end; `done` are the items before, the last first. -/
def items (plan : Blueprint) : (fuel depth : Nat) → (done : List Tree) → (jumps : Nat) →
    List LinkedEvent → Except Fault (Built (List Tree))
  | 0, _, _, _, _ => .error plan.cut
  | _ + 1, _, _, _, [] => .error plan.cut
  | _ + 1, _, done, jumps, ⟨.sequenceEnd, _⟩ :: rest => .ok (done.reverse, jumps, rest)
  | fuel + 1, depth, done, jumps, events => do
      let (item, jumps, rest) ← plan.node fuel depth jumps events
      plan.items fuel depth (item :: done) jumps rest
termination_by structural fuel => fuel

/-- Builds the entries of the mapping that starts at `mark` up to its end; `done` are the entries
before, the last first. A key that is there already is a fault of the mapping. -/
def entries (plan : Blueprint) : (fuel depth : Nat) → (mark : Mark) →
    (done : List (Tree × Tree)) → (jumps : Nat) → List LinkedEvent →
    Except Fault (Built (List (Tree × Tree)))
  | 0, _, _, _, _, _ => .error plan.cut
  | _ + 1, _, _, _, _, [] => .error plan.cut
  | _ + 1, _, _, done, jumps, ⟨.mappingEnd, _⟩ :: rest => .ok (done.reverse, jumps, rest)
  | fuel + 1, depth, mark, done, jumps, events => do
      let (key, jumps, rest) ← plan.node fuel depth jumps events
      if done.any (fun (k, _) => k.sameAs key) then throw (.at mark .duplicateKey)
      let (value, jumps, rest) ← plan.node fuel depth jumps rest
      plan.entries fuel depth mark ((key, value) :: done) jumps rest
termination_by structural fuel => fuel

end

end Blueprint

/-- The tree of linked events; a document without events is null. Each level of nesting takes at
most one unit of fuel per event and one more, so the fuel lasts. -/
def Tree.ofEvents? (linked : LinkedEvents) : Except Fault Tree :=
  let size := linked.events.length
  let plan : Blueprint := ⟨linked, linked.fault.getD .severalDocuments, size * 100⟩
  if linked.events.isEmpty && linked.fault.isNone then .ok .null
  else do
    let (tree, _, _) ← plan.node ((maxDepth + 2) * (size + 2)) maxDepth 0 linked.events
    return tree

/-- The tree of a text. Faults after a complete tree count too, and so does a second document. -/
def Tree.ofText? (text : String) : Except Fault Tree := do
  let source ← Source.ofString? text
  let (tokens, fault) := tokenize source
  let document := DocumentEvents.ofTokens tokens fault
  let linked := document.link
  let tree ← Tree.ofEvents? linked
  match linked.fault with
  | some fault => throw fault
  | none => if document.followed then throw .severalDocuments else return tree

end ConfigSchema.Yaml
