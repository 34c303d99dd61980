import ConfigSchema.Yaml.NodeEvent

/-!
# Aliases and anchors

An alias repeats the node that its name marks. Here the names are replaced by numbers, once for a
whole document, so that building the tree needs no names.

## Main definitions

- `LinkedEvents` — events whose aliases are numbers, with the node of each number
- `DocumentEvents.link` — the linked events of a document

## Design notes

A new anchor takes the number of names known so far, and the node of a number is the last one that
took it. A name that is used again therefore shares its number with the next new name, and an alias
then repeats the later node.
-/

namespace ConfigSchema.Yaml

/-- An event whose alias, if it is one, is a number. -/
abbrev LinkedEvent := PlacedEvent Nat

/-- The events of a document whose aliases are numbers. -/
structure LinkedEvents where
  events : List LinkedEvent
  /-- The position of the node of each number. -/
  targets : List (Nat × Nat)
  fault : Option Fault

/-- The names and the nodes of the anchors so far. -/
structure Anchors where
  numbers : List (String × Nat) := []
  targets : List (Nat × Nat) := []

/-- Sets the value under a key of an association list. -/
def setKey {α β : Type} [BEq α] (key : α) (value : β) : List (α × β) → List (α × β)
  | [] => [(key, value)]
  | (k, v) :: rest => if k == key then (key, value) :: rest else (k, v) :: setKey key value rest

/-- The anchors after a node with the given labels at a position. -/
def Anchors.note (anchors : Anchors) (labels : Labels) (position : Nat) : Anchors :=
  match labels.anchor with
  | none => anchors
  | some name =>
      let number := anchors.numbers.length
      ⟨setKey name number anchors.numbers, setKey number position anchors.targets⟩

/-- Links events from a position on. An unknown name cuts the events off, before `fault`. -/
def linkFrom (fault : Option Fault) (anchors : Anchors) (position : Nat) :
    List (PlacedEvent String) → LinkedEvents
  | [] => ⟨[], anchors.targets, fault⟩
  | ⟨event, mark⟩ :: rest =>
      let more (event : NodeEvent Nat) (anchors : Anchors) : LinkedEvents :=
        let linked := linkFrom fault anchors (position + 1) rest
        { linked with events := ⟨event, mark⟩ :: linked.events }
      match event with
      | .alias name =>
          match anchors.numbers.lookup name with
          | some number => more (.alias number) anchors
          | none => ⟨[], anchors.targets, some (.at mark .anchorUnknown)⟩
      | .scalar labels text plain => more (.scalar labels text plain) (anchors.note labels position)
      | .sequenceStart labels => more (.sequenceStart labels) (anchors.note labels position)
      | .sequenceEnd => more .sequenceEnd anchors
      | .mappingStart labels => more (.mappingStart labels) (anchors.note labels position)
      | .mappingEnd => more .mappingEnd anchors

/-- The linked events of a document. -/
def DocumentEvents.link (document : DocumentEvents) : LinkedEvents :=
  linkFrom document.fault {} 0 document.events

/-- The events from the node of a number on. -/
def LinkedEvents.target (linked : LinkedEvents) (number : Nat) : List LinkedEvent :=
  match linked.targets.lookup number with
  | some position => linked.events.drop position
  | none => []

end ConfigSchema.Yaml
