import ConfigSchema.Proofs.Outcome
import ConfigSchema.Yaml.Token.Lexer

/-!
# Runs of the lexer

Releasing tokens early changes nothing about a run that ends without a fault: its tokens are those
that a lexer holds in the end if it releases none.

## Main definitions

- `Lexer.onTop` — a lexer that still holds the tokens it has released
- `Lexer.Settled` — no key can be announced before the tokens that have been released
- `Lexer.step`, `Lexer.Steps` — one sign, and several, for a lexer that releases nothing

## Main statements

- `Lexer.Lifts.fetch` — reading a sign does not depend on what has been released
- `Lexer.run_of_steps` — the tokens of a run
-/

namespace ConfigSchema.Yaml.Lexer

/-- The lexer that still holds the tokens `done`, which the given one has released. -/
def onTop (done : List Token) (lexer : Lexer) : Lexer :=
  { lexer with held := done ++ lexer.held, released := 0 }

/-- The tokens `done` have been released, and every possible key comes after them. -/
structure Settled (done : List Token) (lexer : Lexer) : Prop where
  released : lexer.released = done.length
  number : ∀ key, some key ∈ lexer.key :: lexer.outerKeys → done.length ≤ key.number

/-- The computation `x` does on top of `done` what `y` does after releasing it. -/
structure Lifts (done : List Token) (x y : Except Fault Lexer) : Prop where
  eq : x = y.map (onTop done)
  settled : ∀ lexer, y = .ok lexer → Settled done lexer

namespace Lifts

variable {done : List Token} {lexer : Lexer}

theorem ok (h : Settled done lexer) : Lifts done (.ok (lexer.onTop done)) (.ok lexer) :=
  ⟨rfl, fun _ heq => Except.ok.inj heq ▸ h⟩

theorem pure {other : Lexer} (h : Settled done lexer) (heq : other = lexer.onTop done) :
    Lifts done (Pure.pure other) (Pure.pure lexer) := heq ▸ ok h

theorem error (fault : Fault) : Lifts done (.error fault) (.error fault) :=
  ⟨rfl, fun _ heq => nomatch heq⟩

theorem bind {x y : Except Fault Lexer} {f g : Lexer → Except Fault Lexer}
    (h : Lifts done x y)
    (hstep : ∀ next, Settled done next → Lifts done (f (next.onTop done)) (g next)) :
    Lifts done (x >>= f) (y >>= g) := by
  obtain ⟨rfl, hsettled⟩ := h
  cases y with
  | error fault => exact error fault
  | ok next => exact hstep next (hsettled next rfl)

/-- A scan that has nothing to do with the tokens comes first. -/
theorem scan {α : Type} (x : Except Fault α) {f g : α → Except Fault Lexer}
    (hstep : ∀ a, Lifts done (f a) (g a)) : Lifts done (x >>= f) (x >>= g) := by
  cases x with
  | error fault => exact error fault
  | ok a => exact hstep a

theorem ite (c : Prop) [Decidable c] {x₁ x₂ y₁ y₂ : Except Fault Lexer}
    (hthen : Lifts done x₁ y₁) (helse : Lifts done x₂ y₂) :
    Lifts done (if c then x₁ else x₂) (if c then y₁ else y₂) := by
  split
  · exact hthen
  · exact helse

end Lifts

variable {done : List Token} {lexer : Lexer}

/-! ## Parts of a sign -/

theorem rest_onTop : (lexer.onTop done).rest = lexer.rest := rfl

theorem inFlow_onTop : (lexer.onTop done).inFlow = lexer.inFlow := rfl

theorem push_onTop (kind : TokenKind) (mark : Mark) :
    (lexer.onTop done).push kind mark = (lexer.push kind mark).onTop done := by
  simp [push, onTop]

theorem closeBlocks_onTop (mark : Mark) (isInner : Nat → Bool) :
    (lexer.onTop done).closeBlocks mark isInner =
      (lexer.closeBlocks mark isInner).onTop done := by
  rw [closeBlocks, closeBlocks]
  show (if lexer.inFlow then _ else _) = _
  split
  · rfl
  · simp [onTop]

theorem openBlock_onTop (kind : TokenKind) (mark : Mark) :
    (lexer.onTop done).openBlock kind mark = (lexer.openBlock kind mark).onTop done := by
  rw [openBlock, openBlock]
  show (if lexer.opensBlock mark.column then _ else _) = _
  split
  · simp [onTop, push]
  · rfl

theorem insertIdx_append_right {α : Type} (as bs : List α) (index : Nat) (a : α) :
    (as ++ bs).insertIdx (as.length + index) a = as ++ bs.insertIdx index a := by
  induction as with
  | nil => simp
  | cons b as ih =>
    rw [List.length_cons, Nat.succ_add, List.cons_append, List.insertIdx_succ_cons, ih]
    rfl

theorem insertAt_onTop (h : lexer.released = done.length) {number : Nat}
    (hnumber : done.length ≤ number) (kind : TokenKind) (mark : Mark) :
    (lexer.onTop done).insertAt number kind mark =
      (lexer.insertAt number kind mark).onTop done := by
  obtain ⟨index, rfl⟩ := Nat.exists_eq_add_of_le hnumber
  rw [insertAt, insertAt, onTop, onTop]
  simp [h, insertIdx_append_right]

theorem openBlockAt_onTop (h : lexer.released = done.length) {number : Nat}
    (hnumber : done.length ≤ number) (mark : Mark) :
    (lexer.onTop done).openBlockAt number mark =
      (lexer.openBlockAt number mark).onTop done := by
  rw [openBlockAt, openBlockAt, insertAt_onTop h hnumber]
  show (if lexer.opensBlock mark.column then _ else _) = _
  split <;> rfl

/-- A lexer with the same possible keys is as settled. -/
theorem Settled.congr {other : Lexer} (h : Settled done lexer)
    (hreleased : other.released = lexer.released) (hkey : other.key = lexer.key)
    (houter : other.outerKeys = lexer.outerKeys) : Settled done other :=
  ⟨hreleased.trans h.released, fun key hmem => h.number key (by rwa [hkey, houter] at hmem)⟩

theorem Settled.closeBlocks (h : Settled done lexer) (mark : Mark) (isInner : Nat → Bool) :
    Settled done (lexer.closeBlocks mark isInner) := by
  rw [Lexer.closeBlocks]
  split
  · exact h
  · exact h.congr rfl rfl rfl

theorem Settled.openBlock (h : Settled done lexer) (kind : TokenKind) (mark : Mark) :
    Settled done (lexer.openBlock kind mark) := by
  rw [Lexer.openBlock]
  split
  · exact h.congr rfl rfl rfl
  · exact h

theorem Settled.openBlockAt (h : Settled done lexer) (number : Nat) (mark : Mark) :
    Settled done (lexer.openBlockAt number mark) := by
  rw [Lexer.openBlockAt]
  split
  · exact h.congr rfl rfl rfl
  · exact h

/-- Without a possible key at the innermost level, only those of the outer ones are left. -/
theorem Settled.withoutKey {other : Lexer} (h : Settled done lexer)
    (hreleased : other.released = lexer.released) (hkey : other.key = none)
    (houter : other.outerKeys = lexer.outerKeys) : Settled done other := by
  refine ⟨hreleased.trans h.released, fun key hmem => h.number key ?_⟩
  rw [hkey, houter] at hmem
  exact List.mem_cons_of_mem _ (by simpa using hmem)

theorem Lifts.dropKey (h : Settled done lexer) (mark : Mark) :
    Lifts done ((lexer.onTop done).dropKey mark) (lexer.dropKey mark) := by
  refine Lifts.scan (abandonKey mark lexer.key) fun _ => ?_
  exact @Lifts.ok done { lexer with key := none } (h.withoutKey rfl rfl rfl)

theorem Lifts.saveKey (h : Settled done lexer) (mark : Mark) :
    Lifts done ((lexer.onTop done).saveKey mark) (lexer.saveKey mark) := by
  rw [Lexer.saveKey, Lexer.saveKey]
  refine Lifts.ite _ ?_ (Lifts.ok h)
  refine Lifts.bind (Lifts.dropKey h mark) fun next hnext => ?_
  have hnumber : 0 + (done ++ lexer.held).length = lexer.released + lexer.held.length := by
    simp [h.released]
  have heq := @Lifts.ok done
    { next with key := some ⟨!lexer.inFlow && lexer.indents.head? == some mark.column,
        lexer.released + lexer.held.length, mark⟩ } ?_
  · rw [← hnumber] at heq ⊢
    exact heq
  · refine ⟨hnext.released, fun key hmem => ?_⟩
    rcases List.mem_cons.mp hmem with hkey | hmem
    · obtain rfl := Option.some.inj hkey
      exact h.released ▸ Nat.le_add_right _ _
    · exact hnext.number key (List.mem_cons_of_mem _ hmem)

/-- A possible key that has not lapsed is the one from before. -/
theorem expireKey_eq {mark : Mark} {key? result : Option PossibleKey}
    (h : expireKey mark key? = .ok result) {key : PossibleKey} (hkey : result = some key) :
    key? = some key := by
  subst hkey
  cases key? with
  | none => cases h
  | some other =>
    rw [expireKey] at h
    split at h
    · obtain ⟨_, -, h⟩ := Outcome.bind_eq_ok.mp h
      cases h
    · cases h
      rfl

/-- Keys that lapse change nothing about the others, at any level. -/
theorem mem_of_mapM_expireKey {mark : Mark} {keys results : List (Option PossibleKey)}
    (h : keys.mapM (expireKey mark) = .ok results) {key : PossibleKey}
    (hmem : some key ∈ results) : some key ∈ keys := by
  induction keys generalizing results with
  | nil =>
    cases h
    cases hmem
  | cons key? keys ih =>
    rw [List.mapM_cons] at h
    obtain ⟨result, hresult, h⟩ := Outcome.bind_eq_ok.mp h
    obtain ⟨more, hmore, h⟩ := Outcome.bind_eq_ok.mp h
    cases h
    rcases List.mem_cons.mp hmem with hkey | hmem
    · exact List.mem_cons.mpr (.inl (expireKey_eq hresult hkey.symm).symm)
    · exact List.mem_cons_of_mem _ (ih hmore hmem)

theorem Lifts.expireKeys (h : Settled done lexer) (mark : Mark) :
    Lifts done ((lexer.onTop done).expireKeys mark) (lexer.expireKeys mark) := by
  have hexpire (lexer : Lexer) : lexer.expireKeys mark = (do
      let outerKeys ← lexer.outerKeys.mapM (expireKey mark)
      let key ← expireKey mark lexer.key
      return { lexer with key := key, outerKeys := outerKeys }) := rfl
  constructor
  · rw [hexpire, hexpire]
    show (lexer.outerKeys.mapM (expireKey mark) >>= _) = _
    cases lexer.outerKeys.mapM (expireKey mark) with
    | error fault => rfl
    | ok outerKeys =>
      show (expireKey mark lexer.key >>= _) = _
      cases expireKey mark lexer.key <;> rfl
  · intro next hnext
    rw [hexpire] at hnext
    obtain ⟨outerKeys, houter, hnext⟩ := Outcome.bind_eq_ok.mp hnext
    obtain ⟨key?, hkey?, hnext⟩ := Outcome.bind_eq_ok.mp hnext
    cases hnext
    refine ⟨h.released, fun key hmem => h.number key ?_⟩
    rcases List.mem_cons.mp hmem with hkey | hmem
    · exact List.mem_cons.mpr (.inl (expireKey_eq hkey? hkey.symm).symm)
    · exact List.mem_cons_of_mem _ (mem_of_mapM_expireKey houter hmem)

/-! ## Signs -/

theorem Lifts.fetchEnd (h : Settled done lexer) (finish : Mark) :
    Lifts done ((lexer.onTop done).fetchEnd finish) (lexer.fetchEnd finish) := by
  rw [Lexer.fetchEnd, Lexer.fetchEnd, closeBlocks_onTop]
  refine Lifts.bind (Lifts.dropKey (h.closeBlocks _ _) _) fun next hnext => ?_
  rw [push_onTop]
  exact Lifts.pure (hnext.congr rfl rfl rfl) rfl

theorem Lifts.fetchDirective (h : Settled done lexer) (finish mark : Mark) :
    Lifts done ((lexer.onTop done).fetchDirective finish mark)
      (lexer.fetchDirective finish mark) := by
  rw [Lexer.fetchDirective, Lexer.fetchDirective, closeBlocks_onTop]
  refine Lifts.bind (Lifts.dropKey (h.closeBlocks _ _) _) fun next hnext => ?_
  refine Lifts.scan (scanDirective finish (next.rest.drop 1)) fun (kind, rest) => ?_
  dsimp only
  rw [push_onTop]
  exact Lifts.pure (hnext.congr rfl rfl rfl) rfl

theorem Lifts.fetchDocumentMarker (h : Settled done lexer) (kind : TokenKind) (mark : Mark) :
    Lifts done ((lexer.onTop done).fetchDocumentMarker kind mark)
      (lexer.fetchDocumentMarker kind mark) := by
  rw [Lexer.fetchDocumentMarker, Lexer.fetchDocumentMarker, closeBlocks_onTop]
  refine Lifts.bind (Lifts.dropKey (h.closeBlocks _ _) _) fun next hnext => ?_
  rw [push_onTop]
  exact Lifts.pure (hnext.congr rfl rfl rfl) rfl

theorem Lifts.fetchFlowStart (h : Settled done lexer) (kind : TokenKind) (mark : Mark) :
    Lifts done ((lexer.onTop done).fetchFlowStart kind mark)
      (lexer.fetchFlowStart kind mark) := by
  refine Lifts.bind (Lifts.saveKey h mark) fun next hnext => ?_
  rw [push_onTop]
  refine Lifts.pure ⟨hnext.released, fun key hmem => hnext.number key ?_⟩ rfl
  simpa using hmem

theorem Lifts.fetchFlowEnd (h : Settled done lexer) (kind : TokenKind) (mark : Mark) :
    Lifts done ((lexer.onTop done).fetchFlowEnd kind mark) (lexer.fetchFlowEnd kind mark) := by
  refine Lifts.bind (Lifts.dropKey h mark) fun next hnext => ?_
  rw [push_onTop]
  refine Lifts.pure ⟨hnext.released, fun key hmem => hnext.number key ?_⟩ rfl
  refine List.mem_cons_of_mem _ ?_
  cases houter : next.outerKeys with
  | nil => simp [houter] at hmem
  | cons key? outerKeys => simpa [houter] using hmem

theorem Lifts.fetchFlowEntry (h : Settled done lexer) (mark : Mark) :
    Lifts done ((lexer.onTop done).fetchFlowEntry mark) (lexer.fetchFlowEntry mark) := by
  refine Lifts.bind (Lifts.dropKey h mark) fun next hnext => ?_
  rw [push_onTop]
  exact Lifts.pure (hnext.congr rfl rfl rfl) rfl

theorem Lifts.fetchBlockEntry (h : Settled done lexer) (mark : Mark) :
    Lifts done ((lexer.onTop done).fetchBlockEntry mark) (lexer.fetchBlockEntry mark) := by
  rw [Lexer.fetchBlockEntry, Lexer.fetchBlockEntry, openBlock_onTop]
  refine Lifts.ite _ (Lifts.error _) ?_
  refine Lifts.bind (Lifts.dropKey (h.openBlock _ _) _) fun next hnext => ?_
  rw [push_onTop]
  exact Lifts.pure (hnext.congr rfl rfl rfl) rfl

theorem Lifts.fetchKey (h : Settled done lexer) (mark : Mark) :
    Lifts done ((lexer.onTop done).fetchKey mark) (lexer.fetchKey mark) := by
  rw [Lexer.fetchKey, Lexer.fetchKey, openBlock_onTop]
  refine Lifts.ite _ (Lifts.error _) ?_
  refine Lifts.bind (Lifts.dropKey (h.openBlock _ _) _) fun next hnext => ?_
  rw [push_onTop]
  exact Lifts.pure (hnext.congr rfl rfl rfl) rfl

theorem Lifts.fetchValue (h : Settled done lexer) (mark : Mark) :
    Lifts done ((lexer.onTop done).fetchValue mark) (lexer.fetchValue mark) := by
  rw [Lexer.fetchValue, Lexer.fetchValue]
  rw [show (lexer.onTop done).key = lexer.key from rfl]
  cases hkey : lexer.key with
  | none =>
    dsimp only
    rw [openBlock_onTop]
    refine Lifts.ite _ (Lifts.error _) ?_
    rw [push_onTop]
    exact Lifts.pure ((h.openBlock _ _).congr rfl rfl rfl) rfl
  | some key =>
    have hnumber : done.length ≤ key.number := h.number key (by simp [hkey])
    dsimp only
    rw [insertAt_onTop h.released hnumber, openBlockAt_onTop _ hnumber, push_onTop]
    · have hinserted : Settled done (lexer.insertAt key.number .key key.mark) :=
        h.congr rfl rfl rfl
      exact Lifts.pure ((hinserted.openBlockAt key.number key.mark).withoutKey rfl rfl rfl) rfl
    · exact h.released

theorem Lifts.fetchAnchor (h : Settled done lexer) (kind : String → TokenKind)
    (finish mark : Mark) :
    Lifts done ((lexer.onTop done).fetchAnchor kind finish mark)
      (lexer.fetchAnchor kind finish mark) := by
  refine Lifts.bind (Lifts.saveKey h mark) fun next hnext => ?_
  refine Lifts.scan (scanAnchor finish (next.rest.drop 1)) fun (name, rest) => ?_
  dsimp only
  rw [push_onTop]
  exact Lifts.pure (hnext.congr rfl rfl rfl) rfl

theorem Lifts.fetchTag (h : Settled done lexer) (finish mark : Mark) :
    Lifts done ((lexer.onTop done).fetchTag finish mark) (lexer.fetchTag finish mark) := by
  refine Lifts.bind (Lifts.saveKey h mark) fun next hnext => ?_
  refine Lifts.scan (scanTag next.inFlow finish (next.rest.drop 1)) fun (kind, rest) => ?_
  dsimp only
  rw [push_onTop]
  exact Lifts.pure (hnext.congr rfl rfl rfl) rfl

theorem Lifts.fetchBlockScalar (h : Settled done lexer) (literal : Bool) (finish mark : Mark) :
    Lifts done ((lexer.onTop done).fetchBlockScalar literal finish mark)
      (lexer.fetchBlockScalar literal finish mark) := by
  refine Lifts.bind (Lifts.dropKey h mark) fun next hnext => ?_
  refine Lifts.scan (scanBlock literal next.indents.head? finish (next.rest.drop 1))
    fun (text, rest) => ?_
  dsimp only
  rw [push_onTop]
  exact Lifts.pure (hnext.congr rfl rfl rfl) rfl

theorem Lifts.fetchQuoted (h : Settled done lexer) (double : Bool) (finish mark : Mark) :
    Lifts done ((lexer.onTop done).fetchQuoted double finish mark)
      (lexer.fetchQuoted double finish mark) := by
  refine Lifts.bind (Lifts.saveKey h mark) fun next hnext => ?_
  refine Lifts.scan (scanQuoted double finish [] {} none (next.rest.drop 1))
    fun (text, rest) => ?_
  dsimp only
  rw [push_onTop]
  exact Lifts.pure (hnext.congr rfl rfl rfl) rfl

theorem Lifts.fetchPlain (h : Settled done lexer) (mark : Mark) :
    Lifts done ((lexer.onTop done).fetchPlain mark) (lexer.fetchPlain mark) := by
  refine Lifts.bind (Lifts.saveKey h mark) fun next hnext => ?_
  refine Lifts.scan (scanPlain next.inFlow next.margin [] {} next.rest) fun scan => ?_
  dsimp only
  rw [push_onTop]
  exact Lifts.pure (hnext.congr rfl rfl rfl) rfl

theorem Lifts.dispatch (h : Settled done lexer) (finish mark : Mark) :
    Lifts done ((lexer.onTop done).dispatch finish mark) (lexer.dispatch finish mark) := by
  rw [Lexer.dispatch, Lexer.dispatch, rest_onTop, inFlow_onTop]
  cases lexer.rest with
  | nil => exact fetchEnd h finish
  | cons g after =>
    dsimp only
    refine Lifts.ite _ (fetchDirective h finish mark) ?_
    refine Lifts.ite _ (fetchDocumentMarker h .documentStart mark) ?_
    refine Lifts.ite _ (fetchDocumentMarker h .documentEnd mark) ?_
    refine Lifts.ite _ (fetchFlowStart h .flowSequenceStart mark) ?_
    refine Lifts.ite _ (fetchFlowStart h .flowMappingStart mark) ?_
    refine Lifts.ite _ (fetchFlowEnd h .flowSequenceEnd mark) ?_
    refine Lifts.ite _ (fetchFlowEnd h .flowMappingEnd mark) ?_
    refine Lifts.ite _ (fetchFlowEntry h mark) ?_
    refine Lifts.ite _ (fetchBlockEntry h mark) ?_
    refine Lifts.ite _ (fetchKey h mark) ?_
    refine Lifts.ite _ (fetchValue h mark) ?_
    refine Lifts.ite _ (fetchAnchor h .alias finish mark) ?_
    refine Lifts.ite _ (fetchAnchor h .anchor finish mark) ?_
    refine Lifts.ite _ (fetchTag h finish mark) ?_
    refine Lifts.ite _ (fetchBlockScalar h true finish mark) ?_
    refine Lifts.ite _ (fetchBlockScalar h false finish mark) ?_
    refine Lifts.ite _ (fetchQuoted h false finish mark) ?_
    refine Lifts.ite _ (fetchQuoted h true finish mark) ?_
    exact Lifts.ite _ (fetchPlain h mark) (error _)

theorem Lifts.arrive (h : Settled done lexer) (finish : Mark) :
    Lifts done ((lexer.onTop done).arrive finish) (lexer.arrive finish) :=
  @Lifts.expireKeys done
    { lexer with
      rest := (toNextSign lexer.inFlow lexer.keyAllowed false lexer.rest).2
      keyAllowed := (toNextSign lexer.inFlow lexer.keyAllowed false lexer.rest).1 }
    (h.congr rfl rfl rfl) _

/-- Reading a sign does not depend on what has been released. -/
theorem Lifts.fetch (h : Settled done lexer) (finish : Mark) :
    Lifts done ((lexer.onTop done).fetch finish) (lexer.fetch finish) := by
  refine Lifts.bind (Lifts.arrive h finish) fun next hnext => ?_
  rw [Lexer.act, Lexer.act, closeBlocks_onTop]
  exact Lifts.dispatch (hnext.closeBlocks _ _) finish _

/-! ## Runs -/

/-- One sign, for a lexer that releases nothing. -/
def step (finish : Mark) (lexer : Lexer) : Except Fault Lexer := do
  (← lexer.expireKeys (lexer.mark finish)).fetch finish

/-- The lexer `last` is reached in `count` signs. -/
inductive Steps (finish : Mark) : (count : Nat) → (first last : Lexer) → Prop where
  | refl (lexer : Lexer) : Steps finish 0 lexer lexer
  | cons {count : Nat} {first next last : Lexer} (hended : first.ended = false)
      (hstep : first.step finish = .ok next) (hrest : Steps finish count next last) :
      Steps finish (count + 1) first last

/-- No possible key comes before the first one. -/
theorem firstPossibleKey_le {number : Nat} (h : lexer.firstPossibleKey = some number)
    {key : PossibleKey} (hmem : some key ∈ lexer.key :: lexer.outerKeys) :
    number ≤ key.number := by
  rw [firstPossibleKey] at h
  refine (List.min?_eq_some_iff.mp h).2 key.number ?_
  exact List.mem_filterMap.mpr ⟨some key, hmem, rfl⟩

/-- What is released stays settled on top of the tokens released before. -/
theorem settled_release (h : Settled done lexer) :
    Settled (done ++ lexer.release.1) lexer.release.2 ∧
      lexer.release.2.onTop (done ++ lexer.release.1) = lexer.onTop done := by
  obtain ⟨count, hcount, hrelease⟩ : ∃ count, (∀ key, some key ∈ lexer.key :: lexer.outerKeys →
      done.length + count ≤ key.number) ∧ lexer.release = (lexer.held.take count,
        { lexer with
          held := lexer.held.drop count
          released := lexer.released + (lexer.held.take count).length }) := by
    cases hfirst : lexer.firstPossibleKey with
    | some number =>
      refine ⟨number - lexer.released, fun key hmem => ?_, by rw [release, hfirst]⟩
      have hnumber := h.number key hmem
      have hle := firstPossibleKey_le hfirst hmem
      rw [h.released]
      omega
    | none =>
      refine ⟨lexer.held.length, fun key hmem => ?_, by rw [release, hfirst]⟩
      have hempty := List.min?_eq_none_iff.mp hfirst
      have hkey : key.number ∈ (lexer.key :: lexer.outerKeys).filterMap
          (·.map PossibleKey.number) := List.mem_filterMap.mpr ⟨some key, hmem, rfl⟩
      rw [hempty] at hkey
      cases hkey
  rw [hrelease]
  refine ⟨⟨?_, fun key hmem => ?_⟩, ?_⟩
  · simp only [h.released, List.length_append]
  · have hnumber := hcount key hmem
    rw [List.length_append, List.length_take]
    omega
  · simp [onTop]

/-- Only the possible keys can lapse. -/
theorem exists_of_expireKeys {mark : Mark} {next : Lexer}
    (h : lexer.expireKeys mark = .ok next) :
    ∃ key outerKeys, next = { lexer with key := key, outerKeys := outerKeys } := by
  rw [expireKeys] at h
  obtain ⟨outerKeys, -, h⟩ := Outcome.bind_eq_ok.mp h
  obtain ⟨key, -, h⟩ := Outcome.bind_eq_ok.mp h
  cases h
  exact ⟨key, outerKeys, rfl⟩

/-- Without possible keys, none lapse. -/
theorem expireKeys_of_none (hkey : lexer.key = none) (houter : lexer.outerKeys = [])
    (mark : Mark) : lexer.expireKeys mark = .ok lexer := by
  rw [expireKeys, hkey, houter]
  cases lexer
  simp_all [expireKey, pure, Except.pure]

/-- Without possible keys, all tokens are released. -/
theorem release_of_none (hkey : lexer.key = none) (houter : lexer.outerKeys = []) :
    lexer.release.1 = lexer.held := by
  have hfirst : lexer.firstPossibleKey = none := by
    rw [firstPossibleKey, hkey, houter]
    rfl
  rw [release, hfirst]
  exact List.take_length

/-- The tokens of a run are those that a lexer holds in the end if it releases none. -/
theorem run_of_steps {finish : Mark} {count fuel : Nat} {last : Lexer}
    (h : Settled done lexer) (hsteps : Steps finish count (lexer.onTop done) last)
    (hended : last.ended) (hkey : last.key = none) (houter : last.outerKeys = [])
    (hfuel : count < fuel) :
    ∃ tokens, run finish fuel lexer = (tokens, none) ∧ last.held = done ++ tokens := by
  -- the steps release nothing: what the run has released by now is `done`, in front of the rest
  generalize hfirst : lexer.onTop done = first at hsteps
  induction hsteps generalizing lexer done fuel with
  | refl last =>
    subst hfirst
    obtain ⟨fuel, rfl⟩ : ∃ more, fuel = more + 1 := Nat.exists_eq_succ_of_ne_zero (by omega)
    have hended' : lexer.release.2.ended = true := hended
    have hkey : lexer.key = none := hkey
    have houter : lexer.outerKeys = [] := houter
    refine ⟨lexer.held, ?_, rfl⟩
    rw [run, expireKeys_of_none hkey houter]
    dsimp only
    rw [if_pos hended', release_of_none hkey houter]
  | @cons count first next last hopen hstep hrest ih =>
    subst hfirst
    obtain ⟨fuel, rfl⟩ : ∃ more, fuel = more + 1 := Nat.exists_eq_succ_of_ne_zero (by omega)
    obtain ⟨mid, hmid, hfetch⟩ := Outcome.bind_eq_ok.mp hstep
    have hlift := Lifts.expireKeys h (lexer.mark finish)
    rw [show (lexer.onTop done).mark finish = lexer.mark finish from rfl, hlift.eq] at hmid
    obtain ⟨fresh, hfresh, rfl⟩ := Outcome.map_eq_ok hmid
    obtain ⟨hsettled, hsame⟩ := settled_release (hlift.settled fresh hfresh)
    have hlift' := Lifts.fetch hsettled finish
    rw [← hsame, hlift'.eq] at hfetch
    obtain ⟨next, hnext, rfl⟩ := Outcome.map_eq_ok hfetch
    obtain ⟨tokens, htokens, hheld⟩ :=
      ih (hlift'.settled next hnext) hended hkey houter (Nat.lt_of_succ_lt_succ hfuel) rfl
    have hopen' : fresh.release.2.ended = false := by
      obtain ⟨key, outerKeys, rfl⟩ := exists_of_expireKeys hfresh
      exact hopen
    refine ⟨fresh.release.1 ++ tokens, ?_, by rw [hheld, List.append_assoc]⟩
    rw [run, hfresh]
    dsimp only
    rw [hopen', hnext, if_neg Bool.false_ne_true]
    dsimp only
    rw [htokens]

end ConfigSchema.Yaml.Lexer
