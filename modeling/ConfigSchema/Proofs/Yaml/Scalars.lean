import ConfigSchema.Proofs.Yaml.Tree

/-!
# Where the texts of a tree come from

No scalar appears between the tokens of a text and its tree: a text that a tree holds is the text of
one of the tokens.

## Main definitions

- `HasScalar` — some token is a scalar with the given text
- `TakesScalar` — what one step of the grammar can say about scalars

## Main statements

- `hasScalar_of_run` — the scalars of a document are scalars of its tokens
- `hasScalar_of_ofText` — a tree that is a text comes from a token with this text
-/

namespace ConfigSchema.Yaml

/-- Some token is a scalar with the given text. -/
def HasScalar (tokens : List Token) (text : String) : Prop :=
  ∃ token ∈ tokens, ∃ plain, token.kind = .scalar text plain

/-- If a step of the grammar succeeds, it leaves tokens that were there, and a scalar that it emits
is empty or one of them. -/
def TakesScalar (tokens : List Token) (step : Step) : Prop :=
  ∀ event machine, step = .ok (event, machine) → machine.tokens ⊆ tokens ∧
    ∀ labels text plain, event.event = .scalar labels text plain →
      text = "" ∨ HasScalar tokens text

variable {setting : Setting} {stack : List Expectation} {tokens rest : List Token} {token : Token}
  {mark : Mark} {step : Step}

namespace TakesScalar

theorem error (fault : Fault) : TakesScalar tokens (.error fault) := fun _ _ h => nomatch h

/-- An event that is no scalar. -/
theorem ok {event : NodeEvent String} (hrest : rest ⊆ tokens)
    (hevent : ∀ labels text plain, event ≠ .scalar labels text plain) :
    TakesScalar tokens (.ok (⟨event, mark⟩, ⟨stack, rest⟩)) := by
  intro _ _ h
  cases h
  exact ⟨hrest, fun labels text plain heq => absurd heq (hevent labels text plain)⟩

theorem empty {labels : Labels} (hrest : rest ⊆ tokens) :
    TakesScalar tokens (.ok (emptyScalar labels mark, ⟨stack, rest⟩)) := by
  intro _ _ h
  cases h
  refine ⟨hrest, fun _ _ _ heq => ?_⟩
  cases heq
  exact .inl rfl

theorem mono (h : TakesScalar rest step) (hrest : rest ⊆ tokens) : TakesScalar tokens step := by
  intro event machine heq
  obtain ⟨hleft, hscalar⟩ := h event machine heq
  refine ⟨List.Subset.trans hleft hrest, fun labels text plain hevent => ?_⟩
  rcases hscalar labels text plain hevent with htext | ⟨token, hmem, hkind⟩
  · exact .inl htext
  · exact .inr ⟨token, hrest hmem, hkind⟩

end TakesScalar

/-- The anchor and the tag of a node stand before its other tokens. -/
theorem subset_of_readLabels {labels : Labels}
    (h : readLabels setting tokens = .ok (labels, rest)) : rest ⊆ tokens := by
  rw [readLabels.eq_def] at h
  split at h
  · split at h
    · cases h
    · obtain ⟨tag, -, h⟩ := Outcome.bind_eq_ok.mp h
      cases h
      exact List.Subset.trans (List.subset_cons_self _ _) (List.subset_cons_self _ _)
  · split at h
    · cases h
    · obtain ⟨tag, -, h⟩ := Outcome.bind_eq_ok.mp h
      cases h
      exact List.Subset.trans (List.subset_cons_self _ _) (List.subset_cons_self _ _)
  · split at h
    · cases h
    · cases h
      exact List.subset_cons_self _ _
  · split at h
    · cases h
    · obtain ⟨tag, -, h⟩ := Outcome.bind_eq_ok.mp h
      cases h
      exact List.subset_cons_self _ _
  · cases h
    exact List.Subset.refl _

theorem takesScalar_stepNode {block entries : Bool} :
    TakesScalar tokens (stepNode setting block entries stack tokens) := by
  rw [stepNode.eq_def]
  split
  · exact .error _
  · exact .ok (List.subset_cons_self _ _) (by simp)
  rename_i first others _
  intro event machine h
  obtain ⟨⟨labels, left⟩, hlabels, h⟩ := Outcome.bind_eq_ok.mp h
  refine TakesScalar.mono ?_ (subset_of_readLabels hlabels) event machine h
  cases left with
  | nil => exact .error _
  | cons token rest =>
    dsimp only
    have htail : rest ⊆ token :: rest := List.subset_cons_self _ _
    split
    · exact .ok (List.Subset.refl _) (by simp)
    · intro _ _ heq
      cases heq
      refine ⟨htail, fun _ _ _ hevent => ?_⟩
      cases hevent
      exact .inr ⟨token, List.mem_cons_self, _, ‹token.kind = _›⟩
    · exact .ok htail (by simp)
    · exact .ok htail (by simp)
    · exact .ok htail (by simp)
    · exact .ok htail (by simp)
    · split
      · exact .empty (List.Subset.refl _)
      · exact .error _

/-! ## Expectations -/

theorem takesScalar_stepBlockEntry : TakesScalar tokens (stepBlockEntry setting stack tokens) := by
  rw [stepBlockEntry.eq_def]
  split
  · exact .error _
  · split
    · exact .error _
    · dsimp only
      split
      · exact .empty (List.subset_cons_self _ _)
      · exact .empty (List.subset_cons_self _ _)
      · exact takesScalar_stepNode.mono (List.subset_cons_self _ _)
  · exact .ok (List.subset_cons_self _ _) (by simp)
  · exact .error _

theorem takesScalar_stepIndentlessEntry :
    TakesScalar tokens (stepIndentlessEntry setting stack tokens) := by
  rw [stepIndentlessEntry.eq_def]
  split
  · exact .error _
  · split
    · exact .error _
    · dsimp only
      split
      iterate 4 exact .empty (List.subset_cons_self _ _)
      exact takesScalar_stepNode.mono (List.subset_cons_self _ _)
  · exact .ok (List.Subset.refl _) (by simp)

theorem takesScalar_stepBlockPart :
    TakesScalar tokens (stepBlockPart setting stack mark tokens) := by
  rw [stepBlockPart.eq_def]
  split
  · exact .error _
  · split
    iterate 3 exact .empty (List.Subset.refl _)
    exact takesScalar_stepNode

theorem takesScalar_stepBlockKey : TakesScalar tokens (stepBlockKey setting stack tokens) := by
  rw [stepBlockKey.eq_def]
  split
  · exact .error _
  · exact takesScalar_stepBlockPart.mono (List.subset_cons_self _ _)
  · exact .ok (List.subset_cons_self _ _) (by simp)
  · exact .error _

theorem takesScalar_stepBlockValue :
    TakesScalar tokens (stepBlockValue setting stack tokens) := by
  rw [stepBlockValue.eq_def]
  split
  · exact .error _
  · exact takesScalar_stepBlockPart.mono (List.subset_cons_self _ _)
  · exact .empty (List.Subset.refl _)

theorem takesScalar_stepFlowItem : TakesScalar tokens (stepFlowItem setting stack tokens) := by
  rw [stepFlowItem.eq_def]
  split
  · exact .error _
  · exact .ok (List.subset_cons_self _ _) (by simp)
  · exact .ok (List.subset_cons_self _ _) (by simp)
  · exact takesScalar_stepNode

theorem takesScalar_stepFlowEntry : TakesScalar tokens (stepFlowEntry setting stack tokens) := by
  rw [stepFlowEntry.eq_def]
  split
  · exact .error _
  · exact .ok (List.subset_cons_self _ _) (by simp)
  · exact takesScalar_stepFlowItem.mono (List.subset_cons_self _ _)
  · exact .error _

theorem takesScalar_stepFlowPairKey :
    TakesScalar tokens (stepFlowPairKey setting stack tokens) := by
  rw [stepFlowPairKey.eq_def]
  split
  · exact .error _
  · dsimp only
    split
    iterate 3 exact .empty (List.subset_cons_self _ _)
    exact takesScalar_stepNode

theorem takesScalar_stepFlowPairValue :
    TakesScalar tokens (stepFlowPairValue setting stack tokens) := by
  rw [stepFlowPairValue.eq_def]
  split
  · exact .error _
  · split
    · exact .error _
    · dsimp only
      split
      iterate 2 exact .empty (List.subset_cons_self _ _)
      exact takesScalar_stepNode.mono (List.subset_cons_self _ _)
  · exact .empty (List.Subset.refl _)

theorem takesScalar_stepFlowMappingItem :
    TakesScalar tokens (stepFlowMappingItem setting stack tokens) := by
  rw [stepFlowMappingItem.eq_def]
  split
  · exact .error _
  · exact .ok (List.subset_cons_self _ _) (by simp)
  · split
    · exact .error _
    · dsimp only
      split
      iterate 3 exact .empty (List.subset_cons_self _ _)
      exact takesScalar_stepNode.mono (List.subset_cons_self _ _)
  · exact takesScalar_stepNode

theorem takesScalar_stepFlowMappingKey :
    TakesScalar tokens (stepFlowMappingKey setting stack tokens) := by
  rw [stepFlowMappingKey.eq_def]
  split
  · exact .error _
  · exact .ok (List.subset_cons_self _ _) (by simp)
  · exact takesScalar_stepFlowMappingItem.mono (List.subset_cons_self _ _)
  · exact .error _

theorem takesScalar_stepFlowMappingValue :
    TakesScalar tokens (stepFlowMappingValue setting stack tokens) := by
  rw [stepFlowMappingValue.eq_def]
  split
  · exact .error _
  · split
    · exact .error _
    · dsimp only
      split
      iterate 2 exact .empty (List.subset_cons_self _ _)
      exact takesScalar_stepNode.mono (List.subset_cons_self _ _)
  · exact .empty (List.Subset.refl _)

theorem takesScalar_stepContent : TakesScalar tokens (stepContent setting stack tokens) := by
  rw [stepContent.eq_def]
  split
  · exact .error _
  · split
    iterate 5 exact .empty (List.Subset.refl _)
    exact takesScalar_stepNode

/-- Whatever is expected, the step emits no scalar that no token is. -/
theorem takesScalar_step (expected : Expectation) :
    TakesScalar tokens (expected.step setting stack tokens) := by
  cases expected with
  | blockNode => exact takesScalar_stepNode
  | documentContent => exact takesScalar_stepContent
  | blockSequenceEntry => exact takesScalar_stepBlockEntry
  | indentlessEntry => exact takesScalar_stepIndentlessEntry
  | blockMappingKey => exact takesScalar_stepBlockKey
  | blockMappingValue => exact takesScalar_stepBlockValue
  | flowSequenceFirst => exact takesScalar_stepFlowItem
  | flowSequenceEntry => exact takesScalar_stepFlowEntry
  | flowPairKey => exact takesScalar_stepFlowPairKey
  | flowPairValue => exact takesScalar_stepFlowPairValue
  | flowPairEnd =>
    rw [Expectation.step.eq_def]
    dsimp only
    split
    · exact .error _
    · exact .ok (List.Subset.refl _) (by simp)
  | flowMappingFirst => exact takesScalar_stepFlowMappingItem
  | flowMappingKey => exact takesScalar_stepFlowMappingKey
  | flowMappingValue => exact takesScalar_stepFlowMappingValue
  | flowMappingNoValue =>
    rw [Expectation.step.eq_def]
    dsimp only
    split
    · exact .error _
    · exact .empty (List.Subset.refl _)

/-! ## Documents -/

/-- The scalars among events are empty or scalars of the tokens. -/
def ScalarsIn {Ref : Type} (tokens : List Token) (events : List (PlacedEvent Ref)) : Prop :=
  ∀ event ∈ events, ∀ labels text plain, event.event = .scalar labels text plain →
    text = "" ∨ HasScalar tokens text

theorem scalarsIn_run {fuel : Nat} {machine : Machine} (hmachine : machine.tokens ⊆ tokens) :
    ScalarsIn tokens (machine.run setting fuel).1 := by
  induction fuel generalizing machine with
  | zero => exact fun _ h => nomatch h
  | succ fuel ih =>
    obtain ⟨stack, left⟩ := machine
    cases stack with
    | nil => exact fun _ h => nomatch h
    | cons expected stack =>
      rw [Machine.run]
      split
      · exact fun _ h => nomatch h
      · rename_i event next hstep
        obtain ⟨hnext, hscalar⟩ := (takesScalar_step expected).mono hmachine event next hstep
        intro other hmem
        rcases List.mem_cons.mp hmem with rfl | hmem
        · exact hscalar
        · exact ih hnext other hmem

theorem scalarsIn_ofContent {expected : Expectation} (hrest : rest ⊆ tokens) :
    ScalarsIn tokens (DocumentEvents.ofContent setting expected rest).events := by
  have hrun : ScalarsIn tokens
      (Machine.run setting (4 * rest.length + 8) ⟨[expected], rest⟩).1 := scalarsIn_run hrest
  rw [DocumentEvents.ofContent]
  split
  · rename_i heq
    rwa [heq] at hrun
  · rename_i heq
    rwa [heq] at hrun
  · rename_i heq
    rwa [heq] at hrun

theorem subset_of_readDirectives {cut : Fault} {version : Bool} {handles final : Handles}
    (h : readDirectives cut version handles tokens = .ok (final, rest)) : rest ⊆ tokens := by
  fun_induction readDirectives cut version handles tokens with
  | case1 | case2 | case4 | case5 => cases h
  | case3 _ _ _ _ _ _ _ _ ih | case6 _ _ _ _ _ _ _ ih =>
    exact List.Subset.trans (ih h) (List.subset_cons_self _ _)
  | case7 =>
    cases h
    exact List.Subset.refl _

/-- The scalars of a document are empty or scalars of its tokens. -/
theorem scalarsIn_ofTokens (tokens : List Token) (fault : Option Fault) :
    ScalarsIn tokens (DocumentEvents.ofTokens tokens fault).events := by
  have hnone : ScalarsIn tokens ([] : List (PlacedEvent String)) := fun _ h => nomatch h
  rw [DocumentEvents.ofTokens.eq_def]
  dsimp only
  split
  · exact hnone
  split
  · exact hnone
  split
  · split
    · exact hnone
    · rename_i hdirectives
      have hrest := subset_of_readDirectives hdirectives
      exact scalarsIn_ofContent (List.Subset.trans (List.subset_cons_self _ _) hrest)
    · exact hnone
    · exact hnone
  · exact scalarsIn_ofContent (List.Subset.refl _)

/-! ## Trees -/

theorem ScalarsIn.cons {Ref : Type} {event : PlacedEvent Ref} {events : List (PlacedEvent Ref)}
    (hevent : ∀ labels text plain, event.event = .scalar labels text plain →
      text = "" ∨ HasScalar tokens text) (hevents : ScalarsIn tokens events) :
    ScalarsIn tokens (event :: events) := by
  intro other hmem
  rcases List.mem_cons.mp hmem with rfl | hmem
  · exact hevent
  · exact hevents other hmem

/-- Linking keeps the scalars. -/
theorem scalarsIn_linkFrom {events : List (PlacedEvent String)} (h : ScalarsIn tokens events)
    (fault : Option Fault) (anchors : Anchors) (position : Nat) :
    ScalarsIn tokens (linkFrom fault anchors position events).events := by
  induction events generalizing anchors position with
  | nil => exact fun _ hmem => nomatch hmem
  | cons event events ih =>
    obtain ⟨event, mark⟩ := event
    have hrest : ScalarsIn tokens events := fun other hmem => h other (List.mem_cons_of_mem _ hmem)
    cases event with
    | «alias» name =>
      rw [linkFrom]
      dsimp only
      split
      · exact .cons (by simp) (ih hrest _ _)
      · exact fun _ hmem => nomatch hmem
    | scalar labels text plain =>
      refine .cons (fun labels' text' plain' heq => ?_) (ih hrest _ _)
      obtain ⟨-, rfl, -⟩ := NodeEvent.scalar.inj heq
      exact h _ List.mem_cons_self labels text plain rfl
    | sequenceStart labels => exact .cons (by simp) (ih hrest _ _)
    | sequenceEnd => exact .cons (by simp) (ih hrest _ _)
    | mappingStart labels => exact .cons (by simp) (ih hrest _ _)
    | mappingEnd => exact .cons (by simp) (ih hrest _ _)

/-- Only a node that is put under no name is a text. -/
theorem eq_of_wrapTag {name? : Option String} {content : Tree} {read : String}
    (h : wrapTag name? content = .str read) : content = .str read := by
  cases name? with
  | none => exact h
  | some name => cases h

/-- A tree that is a text is that of a scalar among the events. -/
theorem hasScalar_of_node {plan : Blueprint} {events rest : List LinkedEvent} {read : String}
    {fuel depth jumps jumps' : Nat} (hplan : ScalarsIn tokens plan.linked.events)
    (hevents : ScalarsIn tokens events)
    (h : plan.node fuel depth jumps events = .ok (.str read, jumps', rest)) :
    read = "" ∨ HasScalar tokens read := by
  -- a collection is no text, so only an alias leads on to another node
  induction fuel generalizing events jumps jumps' rest with
  | zero => cases h
  | succ fuel ih =>
    cases events with
    | nil => cases h
    | cons event events =>
      obtain ⟨event, mark⟩ := event
      rw [Blueprint.node.eq_def] at h
      cases event with
      | «alias» number =>
        dsimp only at h
        split at h
        · cases h
        obtain ⟨⟨tree, jumps, after⟩, hnode, h⟩ := Outcome.bind_eq_ok.mp h
        cases h
        refine ih (fun other hmem => ?_) hnode
        rw [LinkedEvents.target] at hmem
        split at hmem
        · exact hplan other (List.mem_of_mem_drop hmem)
        · cases hmem
      | scalar labels text plain =>
        obtain ⟨tree, htree, h⟩ := Outcome.bind_eq_ok.mp h
        have hread := congrArg Prod.fst (Except.ok.inj h)
        rw [eq_of_wrapTag hread] at htree
        cases isScalar_of_scalarTree htree with
        | str => exact hevents _ List.mem_cons_self labels _ plain rfl
      | sequenceStart labels =>
        dsimp only at h
        split at h
        · cases h
        obtain ⟨⟨items, jumps, after⟩, -, h⟩ := Outcome.bind_eq_ok.mp h
        have hread := congrArg Prod.fst (Except.ok.inj h)
        cases eq_of_wrapTag hread
      | mappingStart labels =>
        dsimp only at h
        split at h
        · cases h
        obtain ⟨⟨entries, jumps, after⟩, -, h⟩ := Outcome.bind_eq_ok.mp h
        have hread := congrArg Prod.fst (Except.ok.inj h)
        cases eq_of_wrapTag hread
      | sequenceEnd => cases h
      | mappingEnd => cases h

/-- A text that is not empty and is the tree of a text is a scalar among its tokens. -/
theorem hasScalar_of_ofText {text read : String} (h : Tree.ofText? text = .ok (.str read))
    (hne : read ≠ "") :
    ∃ source, Source.ofString? text = .ok source ∧ HasScalar (tokenize source).1 read := by
  obtain ⟨source, hsource, htree⟩ := Tree.exists_source_of_ofText h
  refine ⟨source, hsource, ?_⟩
  have hevents := scalarsIn_linkFrom (scalarsIn_ofTokens (tokenize source).1 (tokenize source).2)
    (DocumentEvents.ofTokens (tokenize source).1 (tokenize source).2).fault {} 0
  rw [Tree.ofEvents?] at htree
  dsimp only at htree
  split at htree
  · cases htree
  obtain ⟨⟨tree, jumps, rest⟩, hnode, htree⟩ := Outcome.bind_eq_ok.mp htree
  cases htree
  exact (hasScalar_of_node hevents hevents hnode).resolve_left hne

end ConfigSchema.Yaml
