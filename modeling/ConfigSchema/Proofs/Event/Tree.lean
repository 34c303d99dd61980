import ConfigSchema.Proofs.Event.Tokens
import ConfigSchema.Yaml.Tree.Build

/-!
# Streams as trees

The tree that the text of a stream denotes, without its comments, by recursion on the stream.

## Main definitions

- `StreamNode.tree?` — the tree of a node
- `Yaml.Agrees` — an outcome of reading, apart from the place of a fault

## Main statements

- `StreamNode.build` — the tree is built from the node events of the node
- `StreamNode.agrees_ofText` — a text with the tokens of a node has the tree of this node
-/

namespace ConfigSchema

open Yaml (NodeEvent PlacedEvent Token Tree Fault Problem LinkedEvent Blueprint LinkedEvents)

/-! ## Trees of nodes -/

/-- The tree of a scalar. -/
def shownTree? (text : String) (tag : ScalarTag) : Except Problem Tree :=
  if isShownPlain text tag then
    (Yaml.resolvePlain (shownText text tag)).elim (.error .integerTooLarge) .ok
  else
    .ok (.str (shownText text tag))

mutual

/-- The tree of a node, where collections may nest `depth` deep. -/
def StreamNode.tree? (depth : Nat) : StreamNode → Except Problem Tree
  | .scalar text tag => shownTree? text tag
  | .mapping entries _ =>
      match depth with
      | 0 => .error .nestedTooDeeply
      | depth + 1 => (entries.trees? depth []).map .map
  | .sequence items _ =>
      match depth with
      | 0 => .error .nestedTooDeeply
      | depth + 1 => (items.trees? depth []).map .seq

/-- The trees of entries, after those of the entries before, the last first. -/
def StreamEntries.trees? (depth : Nat) (done : List (Tree × Tree)) :
    StreamEntries → Except Problem (List (Tree × Tree))
  | .done => .ok done.reverse
  | .comment _ rest => rest.trees? depth done
  | .entry key tag _ value rest => do
      let key ← shownTree? key tag
      if done.any (fun (k, _) => k.sameAs key) then .error .duplicateKey
      else do
        let value ← value.tree? depth
        rest.trees? depth ((key, value) :: done)

/-- The trees of items, after those of the items before, the last first. -/
def StreamItems.trees? (depth : Nat) (done : List Tree) :
    StreamItems → Except Problem (List Tree)
  | .done => .ok done.reverse
  | .comment _ rest => rest.trees? depth done
  | .item value rest => do
      let item ← value.tree? depth
      rest.trees? depth (item :: done)

end

/-- Null is null, whether it is spelled out or not. -/
theorem shownTree_null (text : String) : shownTree? text .null = .ok .null := rfl

/-! ## Links -/

/-- A node event that has no labels and is no alias, before and after linking. -/
inductive Unlabelled : NodeEvent String → NodeEvent Nat → Prop where
  | scalar (text : String) (plain : Bool) :
      Unlabelled (.scalar {} text plain) (.scalar {} text plain)
  | sequenceStart : Unlabelled (.sequenceStart {}) (.sequenceStart {})
  | sequenceEnd : Unlabelled .sequenceEnd .sequenceEnd
  | mappingStart : Unlabelled (.mappingStart {}) (.mappingStart {})
  | mappingEnd : Unlabelled .mappingEnd .mappingEnd

mutual

/-- The node events of a node have no labels. -/
theorem StreamNode.unlabelled (node : StreamNode) :
    List.Forall₂ Unlabelled node.nodeEvents node.nodeEvents := by
  match node with
  | .scalar text tag =>
    rw [StreamNode.nodeEvents, StreamNode.nodeEvents]
    refine .cons ?_ .nil
    split
    · exact .scalar "" true
    · exact .scalar _ _
  | .mapping entries crossed =>
    exact .cons .mappingStart (List.rel_append (StreamEntries.unlabelled entries)
      (.cons .mappingEnd .nil))
  | .sequence items crossed =>
    exact .cons .sequenceStart (List.rel_append (StreamItems.unlabelled items)
      (.cons .sequenceEnd .nil))

theorem StreamEntries.unlabelled (entries : StreamEntries) :
    List.Forall₂ Unlabelled entries.nodeEvents entries.nodeEvents := by
  match entries with
  | .done => exact .nil
  | .comment text rest => exact StreamEntries.unlabelled rest
  | .entry key tag comments value rest =>
    exact .cons (.scalar _ _) (List.rel_append (StreamNode.unlabelled value)
      (StreamEntries.unlabelled rest))

theorem StreamItems.unlabelled (items : StreamItems) :
    List.Forall₂ Unlabelled items.nodeEvents items.nodeEvents := by
  match items with
  | .done => exact .nil
  | .comment text rest => exact StreamItems.unlabelled rest
  | .item value rest =>
    exact List.rel_append (StreamNode.unlabelled value) (StreamItems.unlabelled rest)

end

/-- Events without labels and aliases are linked one by one. -/
theorem linkFrom_unlabelled {placed : List (PlacedEvent String)} {events : List (NodeEvent Nat)}
    (h : List.Forall₂ Unlabelled (placed.map PlacedEvent.event) events) (fault : Option Fault)
    (position : Nat) :
    ∃ linked, Yaml.linkFrom fault {} position placed = ⟨linked, [], fault⟩ ∧
      linked.map PlacedEvent.event = events := by
  induction placed generalizing events position with
  | nil =>
    cases h
    exact ⟨[], rfl, rfl⟩
  | cons event placed ih =>
    obtain ⟨event, mark⟩ := event
    obtain ⟨other, others, hother, hothers, rfl⟩ := List.forall₂_cons_left_iff.mp h
    obtain ⟨linked, hlinked, rfl⟩ := ih hothers (position + 1)
    have hnote : Yaml.Anchors.note {} {} position = {} := rfl
    refine ⟨⟨other, mark⟩ :: linked, ?_, rfl⟩
    cases hother <;> simp only [Yaml.linkFrom, hnote, hlinked]

/-! ## Building -/

/-- Reading ends like `expected`: with its value, or with its problem at some place. -/
def Agrees {α β : Type} (read : Except Fault α) (expected : Except Problem β) (f : β → α) : Prop :=
  match expected with
  | .ok b => read = .ok (f b)
  | .error problem => ∃ mark, read = .error (.at mark problem)

namespace Agrees

variable {α β γ δ : Type} {read : Except Fault α} {expected : Except Problem β} {f : β → α}

/-- Readings that agree step by step agree as a whole. -/
theorem bind {more : α → Except Fault γ} {expectedMore : β → Except Problem δ} {g : δ → γ}
    (h : Agrees read expected f) (hmore : ∀ b, Agrees (more (f b)) (expectedMore b) g) :
    Agrees (read >>= more) (expected >>= expectedMore) g := by
  cases expected with
  | ok b =>
    rw [show read = .ok (f b) from h]
    exact hmore b
  | error problem =>
    obtain ⟨mark, hread⟩ := h
    rw [hread]
    exact ⟨mark, rfl⟩

/-- What is read may be wrapped. -/
theorem wrap {more : α → γ} {g : β → γ} (h : Agrees read expected f)
    (hmore : ∀ b, more (f b) = g b) : Agrees (read >>= fun a => .ok (more a)) expected g := by
  cases expected with
  | ok b =>
    rw [show read = .ok (f b) from h]
    exact congrArg Except.ok (hmore b)
  | error problem =>
    obtain ⟨mark, hread⟩ := h
    rw [hread]
    exact ⟨mark, rfl⟩

/-- What is read may be wrapped, as what is expected is. -/
theorem map {more : α → γ} {expectedMore : β → δ} {g : δ → γ} (h : Agrees read expected f)
    (hmore : ∀ b, more (f b) = g (expectedMore b)) :
    Agrees (read >>= fun a => .ok (more a)) (expected.map expectedMore) g := by
  have hwrap := h.wrap hmore
  cases expected with
  | ok b => exact hwrap
  | error problem => exact hwrap

end Agrees

variable {plan : Blueprint} {events rest : List LinkedEvent}

/-- The tree of a scalar is built from its node event. -/
theorem agrees_scalarTree (mark : Yaml.Mark) (text : String) (tag : ScalarTag) :
    Agrees (Yaml.scalarTree mark none (shownText text tag) (isShownPlain text tag))
      (shownTree? text tag) id := by
  rw [Yaml.scalarTree, shownTree?]
  cases isShownPlain text tag with
  | false => rfl
  | true =>
    cases hresolve : Yaml.resolvePlain (shownText text tag) with
    | none => exact ⟨mark, by simp⟩
    | some tree => simp [Agrees]

/-- A key, or a value that is spelled out, is built from its node event. -/
theorem build_shown {fuel depth : Nat} (jumps : Nat) (mark : Yaml.Mark) (text : String)
    (tag : ScalarTag) :
    Agrees (plan.node (fuel + 1) depth jumps (⟨shownEvent text tag, mark⟩ :: rest))
      (shownTree? text tag) (fun tree => (tree, jumps, rest)) :=
  (agrees_scalarTree mark text tag).wrap fun _ => rfl

/-- The node events of a node do not start with the end of a sequence. -/
theorem StreamNode.nodeEvents_eq_cons (node : StreamNode) :
    ∃ first others, (node.nodeEvents : List (NodeEvent Nat)) = first :: others ∧
      first ≠ .sequenceEnd := by
  cases node with
  | scalar text tag =>
    rw [nodeEvents]
    refine ⟨_, _, rfl, ?_⟩
    split <;> simp [shownEvent]
  | mapping entries crossed => exact ⟨_, _, rfl, by simp⟩
  | sequence items crossed => exact ⟨_, _, rfl, by simp⟩

/-- An item comes before the end of its sequence. -/
theorem items_succ {fuel depth jumps : Nat} {done : List Tree} {first : LinkedEvent}
    (h : first.event ≠ .sequenceEnd) (others : List LinkedEvent) :
    plan.items (fuel + 1) depth done jumps (first :: others) = (do
      let (item, jumps, rest) ← plan.node fuel depth jumps (first :: others)
      plan.items fuel depth (item :: done) jumps rest) := by
  obtain ⟨event, mark⟩ := first
  cases event with
  | sequenceEnd => exact absurd rfl h
  | _ => rfl

mutual

/-- The tree of a node is built from its node events. -/
theorem StreamNode.build (node : StreamNode) (fuel depth jumps : Nat)
    (events rest : List LinkedEvent) (hevents : events.map PlacedEvent.event = node.nodeEvents)
    (hfuel : events.length ≤ fuel) :
    Agrees (plan.node fuel depth jumps (events ++ rest)) (node.tree? depth)
      (fun tree => (tree, jumps, rest)) := by
  -- each call takes one event at least, so that a node needs no more fuel than it has events
  match node with
  | .scalar text tag =>
    rw [StreamNode.nodeEvents] at hevents
    obtain ⟨⟨event, mark⟩, others, rfl, hevent, hothers⟩ := List.map_eq_cons_iff.mp hevents
    obtain rfl := List.map_eq_nil_iff.mp hothers
    obtain ⟨fuel, rfl⟩ := Nat.exists_eq_add_of_le' hfuel
    dsimp only at hevent
    subst hevent
    rw [StreamNode.tree?]
    by_cases htag : tag = .null
    · subst htag
      exact rfl
    · rw [if_neg htag]
      exact build_shown jumps mark text tag
  | .mapping entries crossed =>
    rw [StreamNode.nodeEvents] at hevents
    obtain ⟨⟨_, mark⟩, inner, ⟨_, last⟩, rfl, ⟨⟩, hinner, ⟨⟩⟩ := exists_of_map_between hevents
    simp only [List.length_cons, List.length_append, List.length_nil] at hfuel
    obtain ⟨fuel, rfl⟩ := Nat.exists_eq_add_of_le' (Nat.le_of_add_left_le hfuel)
    match depth with
    | 0 => exact ⟨mark, rfl⟩
    | depth + 1 =>
      have hentries := StreamEntries.build entries fuel depth jumps mark [] inner rest last hinner
        (by omega)
      rw [List.cons_append, List.append_assoc]
      exact hentries.map fun _ => rfl
  | .sequence items crossed =>
    rw [StreamNode.nodeEvents] at hevents
    obtain ⟨⟨_, mark⟩, inner, ⟨_, last⟩, rfl, ⟨⟩, hinner, ⟨⟩⟩ := exists_of_map_between hevents
    simp only [List.length_cons, List.length_append, List.length_nil] at hfuel
    obtain ⟨fuel, rfl⟩ := Nat.exists_eq_add_of_le' (Nat.le_of_add_left_le hfuel)
    match depth with
    | 0 => exact ⟨mark, rfl⟩
    | depth + 1 =>
      have hitems := StreamItems.build items fuel depth jumps [] inner rest last hinner (by omega)
      rw [List.cons_append, List.append_assoc]
      exact hitems.map fun _ => rfl

theorem StreamEntries.build (entries : StreamEntries) (fuel depth jumps : Nat)
    (mark : Yaml.Mark) (done : List (Tree × Tree)) (events rest : List LinkedEvent)
    (last : Yaml.Mark) (hevents : events.map PlacedEvent.event = entries.nodeEvents)
    (hfuel : events.length < fuel) :
    Agrees (plan.entries fuel depth mark done jumps (events ++ ⟨.mappingEnd, last⟩ :: rest))
      (entries.trees? depth done) (fun trees => (trees, jumps, rest)) := by
  obtain ⟨fuel, rfl⟩ := Nat.exists_eq_add_of_le' (Nat.one_le_of_lt hfuel)
  match entries with
  | .done =>
    obtain rfl := List.map_eq_nil_iff.mp hevents
    exact rfl
  | .comment text more =>
    exact StreamEntries.build more (fuel + 1) depth jumps mark done events rest last hevents hfuel
  | .entry key tag comments value more =>
    rw [StreamEntries.nodeEvents, List.cons_append] at hevents
    obtain ⟨⟨event, mark'⟩, others, rfl, hevent, hothers⟩ := List.map_eq_cons_iff.mp hevents
    obtain ⟨inner, others, rfl, hinner, hothers⟩ := List.map_eq_append_iff.mp hothers
    cases hevent
    simp only [List.length_cons, List.length_append] at hfuel
    obtain ⟨fuel, rfl⟩ := Nat.exists_eq_add_of_le' (show 1 ≤ fuel by omega)
    have hkey := @build_shown plan
      (inner ++ (others ++ ⟨.mappingEnd, last⟩ :: rest)) fuel depth jumps mark' key tag
    rw [List.cons_append, List.append_assoc]
    refine hkey.bind fun tree => ?_
    dsimp only
    by_cases hrepeated : done.any (fun (k, _) => k.sameAs tree) = true
    · rw [if_pos hrepeated, if_pos hrepeated]
      exact ⟨mark, rfl⟩
    · rw [if_neg hrepeated, if_neg hrepeated]
      have hvalue := StreamNode.build value (fuel + 1) depth jumps inner
        (others ++ ⟨.mappingEnd, last⟩ :: rest) hinner (by omega)
      refine hvalue.bind fun content => ?_
      exact StreamEntries.build more (fuel + 1) depth jumps mark ((tree, content) :: done)
        others rest last hothers (by omega)

theorem StreamItems.build (items : StreamItems) (fuel depth jumps : Nat)
    (done : List Tree) (events rest : List LinkedEvent)
    (last : Yaml.Mark) (hevents : events.map PlacedEvent.event = items.nodeEvents)
    (hfuel : events.length < fuel) :
    Agrees (plan.items fuel depth done jumps (events ++ ⟨.sequenceEnd, last⟩ :: rest))
      (items.trees? depth done) (fun trees => (trees, jumps, rest)) := by
  obtain ⟨fuel, rfl⟩ := Nat.exists_eq_add_of_le' (Nat.one_le_of_lt hfuel)
  match items with
  | .done =>
    obtain rfl := List.map_eq_nil_iff.mp hevents
    exact rfl
  | .comment text more =>
    exact StreamItems.build more (fuel + 1) depth jumps done events rest last hevents hfuel
  | .item value more =>
    rw [StreamItems.nodeEvents] at hevents
    obtain ⟨inner, others, rfl, hinner, hothers⟩ := List.map_eq_append_iff.mp hevents
    have hvalue := StreamNode.build value fuel depth jumps inner
      (others ++ ⟨.sequenceEnd, last⟩ :: rest) hinner (by simp at hfuel; omega)
    obtain ⟨first, tail, hfirst, hne⟩ := value.nodeEvents_eq_cons
    rw [hfirst] at hinner
    obtain ⟨event, inner, rfl, hevent, -⟩ := List.map_eq_cons_iff.mp hinner
    rw [List.append_assoc, List.cons_append, items_succ (hevent ▸ hne)]
    refine hvalue.bind fun item => ?_
    exact StreamItems.build more fuel depth jumps (item :: done) others rest last hothers
      (by simp at hfuel; omega)

end

/-! ## Texts -/

theorem StreamNode.unlabelled_rootEvents (node : StreamNode) :
    List.Forall₂ Unlabelled node.rootEvents node.rootEvents := by
  cases node with
  | scalar text tag => exact .cons (.scalar _ _) .nil
  | mapping entries crossed => exact (StreamNode.mapping entries crossed).unlabelled
  | sequence items crossed => exact (StreamNode.sequence items crossed).unlabelled

theorem StreamNode.rootEvents_eq_cons (node : StreamNode) :
    ∃ first others, (node.rootEvents : List (NodeEvent Nat)) = first :: others := by
  cases node with
  | scalar text tag => exact ⟨_, _, rfl⟩
  | mapping entries crossed => exact ⟨_, _, rfl⟩
  | sequence items crossed => exact ⟨_, _, rfl⟩

/-- The tree of a document is built from the node events of its node. -/
theorem StreamNode.build_rootEvents (node : StreamNode) (fuel depth jumps : Nat)
    (events : List LinkedEvent) (hevents : events.map PlacedEvent.event = node.rootEvents)
    (hfuel : events.length ≤ fuel) :
    Agrees (plan.node fuel depth jumps events) (node.tree? depth)
      (fun tree => (tree, jumps, [])) := by
  cases node with
  | scalar text tag =>
    obtain ⟨⟨event, mark⟩, others, rfl, hevent, hothers⟩ := List.map_eq_cons_iff.mp hevents
    obtain rfl := List.map_eq_nil_iff.mp hothers
    obtain ⟨fuel, rfl⟩ := Nat.exists_eq_add_of_le' hfuel
    cases hevent
    exact build_shown jumps mark text tag
  | mapping entries crossed =>
    have hbuild := @StreamNode.build plan (.mapping entries crossed) fuel depth jumps events []
      hevents hfuel
    rwa [List.append_nil] at hbuild
  | sequence items crossed =>
    have hbuild := @StreamNode.build plan (.sequence items crossed) fuel depth jumps events []
      hevents hfuel
    rwa [List.append_nil] at hbuild

/-- The tree of a text whose tokens are one readable document. -/
theorem ofText_of_tokens {text : String} {source : Yaml.Source} {tokens : List Token}
    {placed : List (PlacedEvent String)} {linked : LinkedEvents}
    (hsource : Yaml.Source.ofString? text = .ok source)
    (htokens : Yaml.tokenize source = (tokens, none))
    (hdocument : Yaml.DocumentEvents.ofTokens tokens none = ⟨placed, none, false⟩)
    (hlink : Yaml.linkFrom none {} 0 placed = linked) (hfault : linked.fault = none) :
    Tree.ofText? text = Tree.ofEvents? linked := by
  have hlinked : (Yaml.DocumentEvents.ofTokens tokens none).link = linked := by
    rw [hdocument]
    exact hlink
  rw [Tree.ofText?, hsource, Outcome.ok_bind, htokens]
  dsimp only
  rw [hlinked, hfault, hdocument]
  cases Tree.ofEvents? linked <;> rfl

/-- A text whose tokens are those of a node denotes the tree of this node. -/
theorem StreamNode.agrees_ofText (node : StreamNode) {text : String} {source : Yaml.Source}
    {tokens : List Token} (hsource : Yaml.Source.ofString? text = .ok source)
    (htokens : Yaml.tokenize source = (tokens, none))
    (hkinds : tokens.map Token.kind = node.rootKinds ++ [.streamEnd]) :
    Agrees (Tree.ofText? text) (node.tree? Yaml.maxDepth) id := by
  obtain ⟨placed, hdocument, hplaced⟩ := node.ofTokens_rootKinds hkinds
  obtain ⟨linked, hlinked, hevents⟩ :=
    linkFrom_unlabelled (hplaced ▸ node.unlabelled_rootEvents) none 0
  have hbuild := @build_rootEvents ⟨⟨linked, [], none⟩, .severalDocuments, linked.length * 100⟩
    node ((Yaml.maxDepth + 2) * (linked.length + 2)) Yaml.maxDepth 0 linked hevents
    (by rw [Yaml.maxDepth]; omega)
  have hnonempty : linked.isEmpty = false := by
    obtain ⟨event, events, hroot⟩ := node.rootEvents_eq_cons
    rw [hroot] at hevents
    obtain ⟨first, rest, rfl, -⟩ := List.map_eq_cons_iff.mp hevents
    rfl
  rw [ofText_of_tokens hsource htokens hdocument hlinked rfl, Tree.ofEvents?, hnonempty]
  exact hbuild.wrap fun _ => rfl

/-- A text without tokens denotes null. -/
theorem ofText_of_streamEnd {text : String} {source : Yaml.Source} {tokens : List Token}
    (hsource : Yaml.Source.ofString? text = .ok source)
    (htokens : Yaml.tokenize source = (tokens, none))
    (hkinds : tokens.map Token.kind = [.streamEnd]) : Tree.ofText? text = .ok .null := by
  obtain ⟨token, rest, rfl, hkind, hrest⟩ := List.map_eq_cons_iff.mp hkinds
  obtain rfl := List.map_eq_nil_iff.mp hrest
  obtain ⟨kind, mark⟩ := token
  cases hkind
  rw [ofText_of_tokens hsource htokens rfl rfl rfl]
  rfl

end ConfigSchema
