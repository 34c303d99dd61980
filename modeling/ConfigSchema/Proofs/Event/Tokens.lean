import ConfigSchema.Proofs.Event.Stream
import ConfigSchema.Yaml.NodeEvent.Grammar

/-!
# Streams as tokens

The tokens that the text of a stream consists of, without its comments, and the node events that
these tokens are read as.

## Main definitions

- `StreamNode.kinds`, `StreamNode.rootKinds` — the kinds of the tokens of a node
- `StreamNode.nodeEvents` — the node events of a node
- `Yaml.Takes` — a stack machine goes from one state to another and emits node events

## Main statements

- `StreamNode.takes` — a machine that expects a node takes the tokens of one
- `StreamNode.ofTokens_rootKinds` — the document that the tokens of a node are
-/

namespace ConfigSchema

open Yaml (NodeEvent PlacedEvent TokenKind Token Expectation Machine Setting Step)

/-! ## Tokens and node events -/

/-- The text that a scalar is read back as. Null is spelled out, where it is spelled at all. -/
def shownText (text : String) : ScalarTag → String
  | .null => "null"
  | .str => text
  | tag => written text tag

/-- Whether a scalar is written without quotes. -/
def isShownPlain (text : String) (tag : ScalarTag) : Bool := tag != .str || isPlainSafe text

/-- The token of a scalar. -/
def scalarKind (text : String) (tag : ScalarTag) : TokenKind :=
  .scalar (shownText text tag) (isShownPlain text tag)

mutual

/-- The kinds of the tokens of a node after the sign of its entry or item. -/
def StreamNode.kinds : StreamNode → List TokenKind
  | .scalar text tag => if tag = .null then [] else [scalarKind text tag]
  | .mapping entries _ =>
      match entries.inside? with
      | some _ => [.flowMappingStart, .flowMappingEnd]
      | none => .blockMappingStart :: entries.kinds ++ [.blockEnd]
  | .sequence items _ =>
      match items.inside? with
      | some _ => [.flowSequenceStart, .flowSequenceEnd]
      | none => .blockSequenceStart :: items.kinds ++ [.blockEnd]

/-- The kinds of the tokens of entries. -/
def StreamEntries.kinds : StreamEntries → List TokenKind
  | .done => []
  | .comment _ rest => rest.kinds
  | .entry key tag _ value rest => .key :: scalarKind key tag :: .value :: value.kinds ++ rest.kinds

/-- The kinds of the tokens of items. -/
def StreamItems.kinds : StreamItems → List TokenKind
  | .done => []
  | .comment _ rest => rest.kinds
  | .item value rest => .blockEntry :: value.kinds ++ rest.kinds

end

/-- The kinds of the tokens of the node of a document. -/
def StreamNode.rootKinds : StreamNode → List TokenKind
  | .scalar text tag => [scalarKind text tag]
  | node => node.kinds

/-- The node event of a scalar that has a token. -/
def shownEvent {Ref : Type} (text : String) (tag : ScalarTag) : NodeEvent Ref :=
  .scalar {} (shownText text tag) (isShownPlain text tag)

mutual

/-- The node events of a node after the sign of its entry or item. -/
def StreamNode.nodeEvents {Ref : Type} : StreamNode → List (NodeEvent Ref)
  | .scalar text tag => [if tag = .null then .scalar {} "" true else shownEvent text tag]
  | .mapping entries _ => .mappingStart {} :: entries.nodeEvents ++ [.mappingEnd]
  | .sequence items _ => .sequenceStart {} :: items.nodeEvents ++ [.sequenceEnd]

/-- The node events of entries. -/
def StreamEntries.nodeEvents {Ref : Type} : StreamEntries → List (NodeEvent Ref)
  | .done => []
  | .comment _ rest => rest.nodeEvents
  | .entry key tag _ value rest => shownEvent key tag :: value.nodeEvents ++ rest.nodeEvents

/-- The node events of items. -/
def StreamItems.nodeEvents {Ref : Type} : StreamItems → List (NodeEvent Ref)
  | .done => []
  | .comment _ rest => rest.nodeEvents
  | .item value rest => value.nodeEvents ++ rest.nodeEvents

end

/-- The node events of the node of a document. -/
def StreamNode.rootEvents {Ref : Type} : StreamNode → List (NodeEvent Ref)
  | .scalar text tag => [shownEvent text tag]
  | node => node.nodeEvents

/-- Entries that are comments alone have no node events. -/
theorem StreamEntries.nodeEvents_of_inside {Ref : Type} {entries : StreamEntries}
    {inside : List String} (h : entries.inside? = some inside) :
    (entries.nodeEvents : List (NodeEvent Ref)) = [] := by
  match entries with
  | .done => rfl
  | .comment text rest =>
    obtain ⟨more, hmore, -⟩ := Option.map_eq_some_iff.mp h
    rw [nodeEvents]
    exact nodeEvents_of_inside hmore

/-- Items that are comments alone have no node events. -/
theorem StreamItems.nodeEvents_of_inside {Ref : Type} {items : StreamItems}
    {inside : List String} (h : items.inside? = some inside) :
    (items.nodeEvents : List (NodeEvent Ref)) = [] := by
  match items with
  | .done => rfl
  | .comment text rest =>
    obtain ⟨more, hmore, -⟩ := Option.map_eq_some_iff.mp h
    rw [nodeEvents]
    exact nodeEvents_of_inside hmore

/-! ## Machines -/

namespace Yaml

variable {setting : Setting} {stack : List Expectation} {tokens tail : List Token}
  {events : List (NodeEvent String)}

/-- A machine emits node events on the way from one state to another. -/
def Takes (setting : Setting) (first last : Machine) (events : List (NodeEvent String)) : Prop :=
  ∃ placed, placed.map PlacedEvent.event = events ∧
    ∀ fuel, first.run setting (fuel + placed.length) =
      (placed ++ (last.run setting fuel).1, (last.run setting fuel).2)

/-- A step emits the first of some node events, and a machine goes on with the others. -/
def StepTakes (setting : Setting) (step : Step) (last : Machine)
    (events : List (NodeEvent String)) : Prop :=
  ∃ event next later, step = .ok (event, next) ∧ Takes setting next last later ∧
    events = event.event :: later

theorem Takes.refl (machine : Machine) : Takes setting machine machine [] :=
  ⟨[], rfl, fun _ => rfl⟩

theorem Takes.trans {first mid last : Machine} {more : List (NodeEvent String)}
    (h : Takes setting first mid events) (h' : Takes setting mid last more) :
    Takes setting first last (events ++ more) := by
  obtain ⟨placed, rfl, hrun⟩ := h
  obtain ⟨placed', rfl, hrun'⟩ := h'
  refine ⟨placed ++ placed', List.map_append, fun fuel => ?_⟩
  rw [List.length_append, Nat.add_comm placed.length, ← Nat.add_assoc, hrun, hrun']
  simp

/-- A step answers the first expectation. -/
theorem StepTakes.takes {expected : Expectation} {last : Machine}
    (h : StepTakes setting (expected.step setting stack tokens) last events) :
    Takes setting ⟨expected :: stack, tokens⟩ last events := by
  obtain ⟨event, next, later, hstep, ⟨placed, rfl, hrun⟩, rfl⟩ := h
  refine ⟨event :: placed, rfl, fun fuel => ?_⟩
  rw [List.length_cons, ← Nat.add_assoc, Machine.run, hstep]
  dsimp only
  rw [hrun]
  rfl

/-- A step that leaves nothing more to do. -/
theorem StepTakes.single {step : Step} {event : PlacedEvent String} {last : Machine}
    (h : step = .ok (event, last)) : StepTakes setting step last [event.event] :=
  ⟨event, last, [], h, .refl last, rfl⟩

/-- A step that opens a collection. -/
theorem StepTakes.cons {step : Step} {event : PlacedEvent String} {next last : Machine}
    (h : step = .ok (event, next)) (hlater : Takes setting next last events) :
    StepTakes setting step last (event.event :: events) :=
  ⟨event, next, events, h, hlater, rfl⟩

end Yaml

open Yaml

variable {setting : Setting} {stack : List Expectation} {tokens tail : List Token}

/-- A machine that has opened a collection between brackets closes it. -/
theorem takes_flowMappingFirst (mark : Mark) :
    Takes setting ⟨.flowMappingFirst :: stack, ⟨.flowMappingEnd, mark⟩ :: tail⟩ ⟨stack, tail⟩
      [.mappingEnd] :=
  StepTakes.takes (.single rfl)

theorem takes_flowSequenceFirst (mark : Mark) :
    Takes setting ⟨.flowSequenceFirst :: stack, ⟨.flowSequenceEnd, mark⟩ :: tail⟩ ⟨stack, tail⟩
      [.sequenceEnd] :=
  StepTakes.takes (.single rfl)

theorem takes_blockMappingEnd (mark : Mark) :
    Takes setting ⟨.blockMappingKey :: stack, ⟨.blockEnd, mark⟩ :: tail⟩ ⟨stack, tail⟩
      [.mappingEnd] :=
  StepTakes.takes (.single rfl)

theorem takes_blockSequenceEnd (mark : Mark) :
    Takes setting ⟨.blockSequenceEntry :: stack, ⟨.blockEnd, mark⟩ :: tail⟩ ⟨stack, tail⟩
      [.sequenceEnd] :=
  StepTakes.takes (.single rfl)

/-- The next token ends the block collection, or goes on with it by the given sign. -/
def EndsNode (sign : TokenKind) (tokens : List Token) : Prop :=
  ∃ token rest, tokens = token :: rest ∧ (token.kind = sign ∨ token.kind = .blockEnd)

/-- A node that has tokens starts with one of a few kinds. -/
def StartsNode : TokenKind → Prop
  | .scalar _ _ => True
  | .flowMappingStart => True
  | .flowSequenceStart => True
  | .blockMappingStart => True
  | .blockSequenceStart => True
  | _ => False

theorem StreamNode.startsNode {node : StreamNode} {kind : TokenKind} {kinds : List TokenKind}
    (h : node.kinds = kind :: kinds) : StartsNode kind := by
  cases node with
  | scalar text tag =>
    rw [StreamNode.kinds] at h
    split at h
    · cases h
    · cases h
      trivial
  | mapping entries crossed =>
    rw [StreamNode.kinds] at h
    split at h <;> cases h <;> trivial
  | sequence items crossed =>
    rw [StreamNode.kinds] at h
    split at h <;> cases h <;> trivial

/-- A node without tokens is null. -/
theorem StreamNode.eq_null {node : StreamNode} (h : node.kinds = []) :
    node.nodeEvents = [(.scalar {} "" true : NodeEvent String)] := by
  cases node with
  | scalar text tag =>
    rw [StreamNode.kinds] at h
    split at h
    · rename_i htag
      rw [StreamNode.nodeEvents, if_pos htag]
    · cases h
  | mapping entries crossed =>
    rw [StreamNode.kinds] at h
    split at h <;> cases h
  | sequence items crossed =>
    rw [StreamNode.kinds] at h
    split at h <;> cases h

/-- What a machine does with the tokens of a node, given what it does where they are not none. -/
def TakesNode (setting : Setting) (node : StreamNode) : Prop :=
  node.kinds ≠ [] → ∀ (entries : Bool) (stack : List Expectation) (tokens tail : List Token),
    tokens.map Token.kind = node.kinds →
    StepTakes setting (stepNode setting true entries stack (tokens ++ tail)) ⟨stack, tail⟩
      node.nodeEvents

/-- A machine that expects a key and a value takes the tokens of a node as either of them. -/
theorem TakesNode.part {node : StreamNode} (h : TakesNode setting node) (mark : Mark)
    (htokens : tokens.map Token.kind = node.kinds) (hend : EndsNode .key tail) :
    StepTakes setting (stepBlockPart setting stack mark (tokens ++ tail)) ⟨stack, tail⟩
      node.nodeEvents := by
  cases tokens with
  | nil =>
    rw [StreamNode.eq_null htokens.symm]
    obtain ⟨⟨kind, mark'⟩, rest, rfl, rfl | rfl⟩ := hend
    · exact .single rfl
    · exact .single rfl
  | cons token tokens =>
    have hstarts := StreamNode.startsNode htokens.symm
    have hpart : stepBlockPart setting stack mark (token :: tokens ++ tail) =
        stepNode setting true true stack (token :: tokens ++ tail) := by
      obtain ⟨kind, mark'⟩ := token
      rw [List.cons_append, stepBlockPart]
      cases kind with
      | scalar | flowMappingStart | flowSequenceStart | blockMappingStart
      | blockSequenceStart => rfl
      | _ => exact hstarts.elim
    rw [hpart]
    exact h (by rw [← htokens]; simp) true stack (token :: tokens) tail htokens

/-- A machine that expects an item takes a dash and the tokens of a node. -/
theorem TakesNode.item {node : StreamNode} (h : TakesNode setting node) (mark : Mark)
    (htokens : tokens.map Token.kind = node.kinds) (hend : EndsNode .blockEntry tail) :
    StepTakes setting (stepBlockEntry setting stack (⟨.blockEntry, mark⟩ :: (tokens ++ tail)))
      ⟨.blockSequenceEntry :: stack, tail⟩ node.nodeEvents := by
  cases tokens with
  | nil =>
    rw [StreamNode.eq_null htokens.symm]
    obtain ⟨⟨kind, mark'⟩, rest, rfl, rfl | rfl⟩ := hend
    · exact .single rfl
    · exact .single rfl
  | cons token tokens =>
    have hstarts := StreamNode.startsNode htokens.symm
    have hitem : stepBlockEntry setting stack
        (⟨.blockEntry, mark⟩ :: (token :: tokens ++ tail)) =
          stepNode setting true false (.blockSequenceEntry :: stack) (token :: tokens ++ tail) := by
      obtain ⟨kind, mark'⟩ := token
      rw [List.cons_append, stepBlockEntry]
      cases kind with
      | scalar | flowMappingStart | flowSequenceStart | blockMappingStart
      | blockSequenceStart => rfl
      | _ => exact hstarts.elim
    rw [hitem]
    exact h (by rw [← htokens]; simp) false _ (token :: tokens) tail htokens

/-- Entries end, or start with a key. -/
theorem StreamEntries.endsNode (entries : StreamEntries)
    (htokens : tokens.map Token.kind = entries.kinds) (hend : EndsNode .key tail) :
    EndsNode .key (tokens ++ tail) := by
  match entries with
  | .done =>
    obtain rfl := List.map_eq_nil_iff.mp htokens
    exact hend
  | .comment text rest => exact endsNode rest htokens hend
  | .entry key tag comments value rest =>
    rw [kinds, List.cons_append] at htokens
    obtain ⟨token, rest, rfl, hkind, -⟩ := List.map_eq_cons_iff.mp htokens
    exact ⟨token, rest ++ tail, rfl, .inl hkind⟩

/-- Items end, or start with a dash. -/
theorem StreamItems.endsNode (items : StreamItems)
    (htokens : tokens.map Token.kind = items.kinds) (hend : EndsNode .blockEntry tail) :
    EndsNode .blockEntry (tokens ++ tail) := by
  match items with
  | .done =>
    obtain rfl := List.map_eq_nil_iff.mp htokens
    exact hend
  | .comment text rest => exact endsNode rest htokens hend
  | .item value rest =>
    rw [kinds, List.cons_append] at htokens
    obtain ⟨token, rest, rfl, hkind, -⟩ := List.map_eq_cons_iff.mp htokens
    exact ⟨token, rest ++ tail, rfl, .inl hkind⟩

/-- What stands between two others is mapped to what stands between their images. -/
theorem exists_of_map_between {α β : Type} {f : α → β} {elements : List α} {first last : β}
    {inside : List β} (h : elements.map f = first :: inside ++ [last]) :
    ∃ a inner b, elements = a :: (inner ++ [b]) ∧ f a = first ∧ inner.map f = inside ∧
      f b = last := by
  obtain ⟨a, rest, rfl, hfirst, hrest⟩ := List.map_eq_cons_iff.mp h
  obtain ⟨inner, closing, rfl, hinner, hclosing⟩ := List.map_eq_append_iff.mp hrest
  obtain ⟨b, rest, rfl, hlast, hrest⟩ := List.map_eq_cons_iff.mp hclosing
  obtain rfl := List.map_eq_nil_iff.mp hrest
  exact ⟨a, inner, b, rfl, hfirst, hinner, hlast⟩

mutual

/-- A machine that expects a node takes the tokens of one. -/
theorem StreamNode.takes (node : StreamNode) : TakesNode setting node := by
  intro hnull entries stack tokens tail htokens
  match node with
  | .scalar text tag =>
    rw [StreamNode.kinds] at htokens hnull
    by_cases htag : tag = .null
    · rw [if_pos htag] at hnull
      exact absurd rfl hnull
    · rw [if_neg htag] at htokens
      obtain ⟨token, rest, rfl, hkind, hrest⟩ := List.map_eq_cons_iff.mp htokens
      obtain rfl := List.map_eq_nil_iff.mp hrest
      obtain ⟨kind, mark⟩ := token
      cases hkind
      rw [StreamNode.nodeEvents, if_neg htag]
      exact .single rfl
  | .mapping body crossed =>
    rw [StreamNode.kinds] at htokens
    rw [StreamNode.nodeEvents]
    cases hinside : body.inside? with
    | some inside =>
      rw [hinside] at htokens
      obtain ⟨⟨_, mark⟩, inner, ⟨_, mark'⟩, rfl, ⟨⟩, hinner, ⟨⟩⟩ :=
        @exists_of_map_between _ _ _ _ _ _ [] htokens
      obtain rfl := List.map_eq_nil_iff.mp hinner
      rw [StreamEntries.nodeEvents_of_inside hinside]
      exact .cons rfl (takes_flowMappingFirst mark')
    | none =>
      rw [hinside] at htokens
      obtain ⟨⟨_, mark⟩, inner, ⟨_, mark'⟩, rfl, ⟨⟩, hinner, ⟨⟩⟩ := exists_of_map_between htokens
      rw [List.cons_append, List.append_assoc]
      exact .cons rfl ((StreamEntries.takes body stack inner _ hinner
        ⟨_, _, rfl, .inr rfl⟩).trans (takes_blockMappingEnd mark'))
  | .sequence body crossed =>
    rw [StreamNode.kinds] at htokens
    rw [StreamNode.nodeEvents]
    cases hinside : body.inside? with
    | some inside =>
      rw [hinside] at htokens
      obtain ⟨⟨_, mark⟩, inner, ⟨_, mark'⟩, rfl, ⟨⟩, hinner, ⟨⟩⟩ :=
        @exists_of_map_between _ _ _ _ _ _ [] htokens
      obtain rfl := List.map_eq_nil_iff.mp hinner
      rw [StreamItems.nodeEvents_of_inside hinside]
      exact .cons rfl (takes_flowSequenceFirst mark')
    | none =>
      rw [hinside] at htokens
      obtain ⟨⟨_, mark⟩, inner, ⟨_, mark'⟩, rfl, ⟨⟩, hinner, ⟨⟩⟩ := exists_of_map_between htokens
      rw [List.cons_append, List.append_assoc]
      exact .cons rfl ((StreamItems.takes body stack inner _ hinner
        ⟨_, _, rfl, .inr rfl⟩).trans (takes_blockSequenceEnd mark'))

/-- A machine that expects a key takes the tokens of entries. -/
theorem StreamEntries.takes (entries : StreamEntries) (stack : List Expectation)
    (tokens tail : List Token) (htokens : tokens.map Token.kind = entries.kinds)
    (hend : EndsNode .key tail) :
    Takes setting ⟨.blockMappingKey :: stack, tokens ++ tail⟩ ⟨.blockMappingKey :: stack, tail⟩
      entries.nodeEvents := by
  match entries with
  | .done =>
    obtain rfl := List.map_eq_nil_iff.mp htokens
    exact .refl _
  | .comment text rest =>
    rw [StreamEntries.nodeEvents]
    exact StreamEntries.takes rest stack tokens tail htokens hend
  | .entry key tag comments value rest =>
    rw [StreamEntries.kinds, List.cons_append, List.cons_append, List.cons_append] at htokens
    obtain ⟨first, after, rfl, hfirst, hafter⟩ := List.map_eq_cons_iff.mp htokens
    obtain ⟨scalar, after, rfl, hscalar, hafter⟩ := List.map_eq_cons_iff.mp hafter
    obtain ⟨colon, after, rfl, hcolon, hafter⟩ := List.map_eq_cons_iff.mp hafter
    obtain ⟨inner, others, rfl, hinner, hothers⟩ := List.map_eq_append_iff.mp hafter
    obtain ⟨kind, mark⟩ := first
    obtain ⟨kind', mark'⟩ := scalar
    obtain ⟨kind'', mark''⟩ := colon
    cases hfirst
    cases hscalar
    cases hcolon
    rw [StreamEntries.nodeEvents]
    have hkey : Takes setting
        ⟨.blockMappingKey :: stack, ⟨.key, mark⟩ :: ⟨scalarKind key tag, mark'⟩ ::
          ⟨.value, mark''⟩ :: (inner ++ (others ++ tail))⟩
        ⟨.blockMappingValue :: stack, ⟨.value, mark''⟩ :: (inner ++ (others ++ tail))⟩
        [shownEvent key tag] := StepTakes.takes (.single rfl)
    have hvalue : Takes setting
        ⟨.blockMappingValue :: stack, ⟨.value, mark''⟩ :: (inner ++ (others ++ tail))⟩
        ⟨.blockMappingKey :: stack, others ++ tail⟩ value.nodeEvents :=
      StepTakes.takes ((StreamNode.takes value).part mark'' hinner (rest.endsNode hothers hend))
    have hrest := StreamEntries.takes rest stack others tail hothers hend
    rw [List.cons_append, List.cons_append, List.cons_append, List.append_assoc]
    exact hkey.trans (hvalue.trans hrest)

/-- A machine that expects an item takes the tokens of items. -/
theorem StreamItems.takes (items : StreamItems) (stack : List Expectation)
    (tokens tail : List Token) (htokens : tokens.map Token.kind = items.kinds)
    (hend : EndsNode .blockEntry tail) :
    Takes setting ⟨.blockSequenceEntry :: stack, tokens ++ tail⟩
      ⟨.blockSequenceEntry :: stack, tail⟩ items.nodeEvents := by
  match items with
  | .done =>
    obtain rfl := List.map_eq_nil_iff.mp htokens
    exact .refl _
  | .comment text rest =>
    rw [StreamItems.nodeEvents]
    exact StreamItems.takes rest stack tokens tail htokens hend
  | .item value rest =>
    rw [StreamItems.kinds, List.cons_append] at htokens
    obtain ⟨first, after, rfl, hfirst, hafter⟩ := List.map_eq_cons_iff.mp htokens
    obtain ⟨inner, others, rfl, hinner, hothers⟩ := List.map_eq_append_iff.mp hafter
    obtain ⟨kind, mark⟩ := first
    cases hfirst
    rw [StreamItems.nodeEvents]
    have hitem : Takes setting
        ⟨.blockSequenceEntry :: stack, ⟨.blockEntry, mark⟩ :: (inner ++ (others ++ tail))⟩
        ⟨.blockSequenceEntry :: stack, others ++ tail⟩ value.nodeEvents :=
      StepTakes.takes ((StreamNode.takes value).item mark hinner (rest.endsNode hothers hend))
    have hrest := StreamItems.takes rest stack others tail hothers hend
    rw [List.cons_append, List.append_assoc]
    exact hitem.trans hrest

end

/-! ## Documents -/

mutual

/-- A node has at most one node event more than tokens. -/
theorem StreamNode.length_nodeEvents (node : StreamNode) :
    (node.nodeEvents : List (NodeEvent String)).length ≤ node.kinds.length + 1 := by
  match node with
  | .scalar text tag => simp [StreamNode.nodeEvents]
  | .mapping entries crossed =>
    rw [StreamNode.nodeEvents, StreamNode.kinds]
    cases hinside : entries.inside? with
    | some inside => simp [StreamEntries.nodeEvents_of_inside hinside]
    | none =>
      have hentries := StreamEntries.length_nodeEvents entries
      simp only [List.cons_append, List.length_cons, List.length_append, List.length_nil]
      omega
  | .sequence items crossed =>
    rw [StreamNode.nodeEvents, StreamNode.kinds]
    cases hinside : items.inside? with
    | some inside => simp [StreamItems.nodeEvents_of_inside hinside]
    | none =>
      have hitems := StreamItems.length_nodeEvents items
      simp only [List.cons_append, List.length_cons, List.length_append, List.length_nil]
      omega

theorem StreamEntries.length_nodeEvents (entries : StreamEntries) :
    (entries.nodeEvents : List (NodeEvent String)).length ≤ entries.kinds.length := by
  match entries with
  | .done => exact Nat.le_refl _
  | .comment text rest => exact StreamEntries.length_nodeEvents rest
  | .entry key tag comments value rest =>
    have hvalue := StreamNode.length_nodeEvents value
    have hrest := StreamEntries.length_nodeEvents rest
    simp only [StreamEntries.nodeEvents, StreamEntries.kinds, List.cons_append,
      List.length_cons, List.length_append]
    omega

theorem StreamItems.length_nodeEvents (items : StreamItems) :
    (items.nodeEvents : List (NodeEvent String)).length ≤ items.kinds.length := by
  match items with
  | .done => exact Nat.le_refl _
  | .comment text rest => exact StreamItems.length_nodeEvents rest
  | .item value rest =>
    have hvalue := StreamNode.length_nodeEvents value
    have hrest := StreamItems.length_nodeEvents rest
    simp only [StreamItems.nodeEvents, StreamItems.kinds, List.cons_append, List.length_cons,
      List.length_append]
    omega

end

/-- The node of a document is never without tokens. -/
theorem StreamNode.takesRoot (node : StreamNode)
    (htokens : tokens.map Token.kind = node.rootKinds) :
    Takes setting ⟨[.blockNode], tokens ++ tail⟩ ⟨[], tail⟩ node.rootEvents := by
  cases node with
  | scalar text tag =>
    obtain ⟨token, rest, rfl, hkind, hrest⟩ := List.map_eq_cons_iff.mp htokens
    obtain rfl := List.map_eq_nil_iff.mp hrest
    obtain ⟨kind, mark⟩ := token
    cases hkind
    exact StepTakes.takes (.single rfl)
  | mapping entries crossed =>
    refine StepTakes.takes ((StreamNode.mapping entries crossed).takes ?_ false [] tokens tail
      htokens)
    rw [StreamNode.kinds]
    split <;> simp
  | sequence items crossed =>
    refine StepTakes.takes ((StreamNode.sequence items crossed).takes ?_ false [] tokens tail
      htokens)
    rw [StreamNode.kinds]
    split <;> simp

theorem StreamNode.length_rootEvents (node : StreamNode) :
    (node.rootEvents : List (NodeEvent String)).length ≤ node.rootKinds.length + 1 := by
  cases node with
  | scalar text tag => simp [rootEvents]
  | mapping entries crossed => exact (StreamNode.mapping entries crossed).length_nodeEvents
  | sequence items crossed => exact (StreamNode.sequence items crossed).length_nodeEvents

/-- The tokens of a node do not look like those in front of a document. -/
theorem StreamNode.startsNode_rootKinds (node : StreamNode) :
    ∃ kind kinds, node.rootKinds = kind :: kinds ∧ StartsNode kind := by
  cases node with
  | scalar text tag => exact ⟨_, _, rfl, trivial⟩
  | mapping entries crossed =>
    rw [rootKinds, kinds]
    · split <;> exact ⟨_, _, rfl, trivial⟩
    · simp
  | sequence items crossed =>
    rw [rootKinds, kinds]
    · split <;> exact ⟨_, _, rfl, trivial⟩
    · simp

/-- The tokens of a node, and the end of the text, are a document of this node alone. -/
theorem StreamNode.ofTokens_rootKinds (node : StreamNode)
    (htokens : tokens.map Token.kind = node.rootKinds ++ [.streamEnd]) :
    ∃ placed, DocumentEvents.ofTokens tokens none = ⟨placed, none, false⟩ ∧
      placed.map PlacedEvent.event = node.rootEvents := by
  obtain ⟨inner, closing, rfl, hinner, hclosing⟩ := List.map_eq_append_iff.mp htokens
  obtain ⟨last, rest, rfl, hlast, hrest⟩ := List.map_eq_cons_iff.mp hclosing
  obtain rfl := List.map_eq_nil_iff.mp hrest
  obtain ⟨kind, mark⟩ := last
  cases hlast
  obtain ⟨placed, hplaced, hrun⟩ := @takesRoot ⟨defaultHandles, .at {} .nodeMissing⟩ inner
    [⟨.streamEnd, mark⟩] node hinner
  refine ⟨placed, ?_, hplaced⟩
  -- the fuel lasts
  have hlength := node.length_rootEvents
  rw [← hplaced, ← hinner, List.length_map, List.length_map] at hlength
  obtain ⟨more, hmore⟩ := Nat.exists_eq_add_of_le
    (show 1 + placed.length ≤ 4 * (inner ++ [(⟨.streamEnd, mark⟩ : Token)]).length + 8 by
      rw [List.length_append]
      omega)
  have hfuel : 4 * (inner ++ [(⟨.streamEnd, mark⟩ : Token)]).length + 8 =
      more + 1 + placed.length := by omega
  have hcontent : DocumentEvents.ofContent ⟨defaultHandles, .at {} .nodeMissing⟩ .blockNode
      (inner ++ [⟨.streamEnd, mark⟩]) = ⟨placed, none, false⟩ := by
    rw [DocumentEvents.ofContent, hfuel, hrun, Machine.run, List.append_nil]
    rfl
  -- the first token belongs to the node
  obtain ⟨kind, kinds, hkinds, hstarts⟩ := node.startsNode_rootKinds
  rw [hkinds] at hinner
  obtain ⟨first, others, rfl, hfirst, -⟩ := List.map_eq_cons_iff.mp hinner
  obtain ⟨kind', mark'⟩ := first
  subst hfirst
  rw [← hcontent]
  cases kind' with
  | scalar | flowMappingStart | flowSequenceStart | blockMappingStart | blockSequenceStart => rfl
  | _ => exact hstarts.elim

end ConfigSchema
