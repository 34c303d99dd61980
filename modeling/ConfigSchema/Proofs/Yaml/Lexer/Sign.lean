import ConfigSchema.Proofs.Yaml.Lexer.Run
import ConfigSchema.Proofs.Yaml.Scalar.Quoted
import Mathlib.Data.List.TakeDrop

/-!
# The lexer in block text

Where the lexer stands between the signs of a text in block style, and how it gets from one sign to
the next.

## Main definitions

- `Lexer.Within` — the lexer stands at a place inside a line
- `Lexer.Reached` — the lexer has come to the first sign of the lines that are left
- `Lexer.Reads`, `Lexer.Comes`, `Lexer.Passes` — several signs, from sign to sign, from behind a
  sign to one, and from a sign to behind one

## Main statements

- `Lexer.Within.settle_spaces`, `Lexer.Within.settle_newline` — on to the next sign
- `Lexer.Reached.act_eq` — what is done at a sign that starts a line
- `Lexer.Steps.of_comes` — signs read one after another are a run
-/

namespace ConfigSchema.Yaml.Lexer

variable {finish : Mark}

/-! ## From sign to sign -/

/-- Goes on to the next sign after one has been read. -/
def settle (finish : Mark) (lexer : Lexer) : Except Fault Lexer := do
  (← lexer.expireKeys (lexer.mark finish)).arrive finish

/-- The lexer `last` at a sign is reached from the lexer `first` at a sign. -/
inductive Reads (finish : Mark) : (first last : Lexer) → Prop where
  | refl (lexer : Lexer) : Reads finish lexer lexer
  | head {first after next last : Lexer} (hact : first.act finish = .ok after)
      (hopen : after.ended = false) (hsettle : after.settle finish = .ok next)
      (hrest : Reads finish next last) : Reads finish first last

theorem Reads.trans {first mid last : Lexer} (h : Reads finish first mid)
    (h' : Reads finish mid last) : Reads finish first last := by
  induction h with
  | refl => exact h'
  | head hact hopen hsettle _ ih => exact .head hact hopen hsettle (ih h')

/-- From behind a sign, the lexer `last` at a sign is reached. -/
def Comes (finish : Mark) (first last : Lexer) : Prop :=
  first.ended = false ∧ ∃ next, first.settle finish = .ok next ∧ Reads finish next last

theorem Comes.trans {first mid last : Lexer} (h : Comes finish first mid)
    (hreads : Reads finish mid last) : Comes finish first last := by
  obtain ⟨hopen, next, hsettle, hfirst⟩ := h
  exact ⟨hopen, next, hsettle, hfirst.trans hreads⟩

/-- After the sign at which the lexer stands, it comes to the lexer `last`. -/
theorem Reads.of_act {first after last : Lexer} (hact : first.act finish = .ok after)
    (h : Comes finish after last) : Reads finish first last := by
  obtain ⟨hopen, next, hsettle, hreads⟩ := h
  exact .head hact hopen hsettle hreads

/-- From a sign, that sign and perhaps more are read, up to behind the last of them. -/
def Passes (finish : Mark) (first after : Lexer) : Prop :=
  ∃ last, Reads finish first last ∧ last.act finish = .ok after

/-- Where two lexers do the same at their signs, they read the same signs. -/
theorem Passes.of_act_eq {first other after : Lexer} (h : Passes finish first after)
    (hact : other.act finish = first.act finish) : Passes finish other after := by
  obtain ⟨last, hreads, hlast⟩ := h
  cases hreads with
  | refl => exact ⟨other, .refl other, hact.trans hlast⟩
  | head hfirst hopen hsettle hrest =>
    exact ⟨last, .head (hact.trans hfirst) hopen hsettle hrest, hlast⟩

theorem Passes.reads {first after last : Lexer} (h : Passes finish first after)
    (hnext : Comes finish after last) : Reads finish first last := by
  obtain ⟨mid, hreads, hact⟩ := h
  exact hreads.trans (.of_act hact hnext)

/-- A step goes on to the next sign and reads it. -/
theorem step_eq (lexer : Lexer) :
    lexer.step finish = (do (← lexer.settle finish).act finish) := by
  rw [step, settle]
  cases lexer.expireKeys (lexer.mark finish) <;> rfl

/-- Signs read one after another are a run. -/
theorem Steps.of_comes {first at_ last : Lexer} (h : Comes finish first at_)
    (hact : at_.act finish = .ok last) : ∃ count, Steps finish count first last := by
  obtain ⟨hopen, next, hsettle, hreads⟩ := h
  -- a step settles first and acts then, so each sign acts in the step of the one before it
  induction hreads generalizing first with
  | refl at_ =>
    refine ⟨1, .cons hopen ?_ (.refl last)⟩
    rw [step_eq, hsettle]
    exact hact
  | head hact' hopen' hsettle' _ ih =>
    obtain ⟨count, hsteps⟩ := ih hact hopen' hsettle'
    refine ⟨count + 1, .cons hopen ?_ hsteps⟩
    rw [step_eq, hsettle]
    exact hact'

/-! ## Places -/

/-- A possible key that can be given up at a place. -/
def Harmless (mark : Mark) (key? : Option PossibleKey) : Prop :=
  ∀ key, key? = some key → key.required = false ∧ key.mark.line ≤ mark.line

/-- Outside of brackets, the lexer stands at `mark` before the characters `cs`. It holds tokens of
the given kinds, and blocks are open at the given columns. -/
structure Within (finish mark : Mark) (cs : List Char) (kinds : List TokenKind)
    (indents : List Nat) (keyAllowed : Bool) (lexer : Lexer) : Prop where
  rest : lexer.rest = (place mark cs).1
  finish : finish = (place mark cs).2
  kinds : lexer.held.map Token.kind = kinds
  indents : lexer.indents = indents
  key : Harmless mark lexer.key
  outerKeys : lexer.outerKeys = []
  keyAllowed : lexer.keyAllowed = keyAllowed
  ended : lexer.ended = false
  released : lexer.released = 0

/-- The lexer has come to the first sign of the lines `cs`. When the blocks right of `column` are
closed, it holds tokens of the given kinds, and blocks are open at the given columns. -/
structure Reached (finish : Mark) (cs : List Char) (kinds : List TokenKind)
    (indents : List Nat) (column : Nat) (lexer : Lexer) : Prop where
  position : ∃ mark : Mark, mark.column = 0 ∧ finish = (place mark cs).2 ∧
    lexer.rest = (toNextSign false true false (place mark cs).1).2
  blocks : ∃ inner : List Nat, (∀ i ∈ inner, column < i) ∧ lexer.indents = inner ++ indents ∧
    lexer.held.map Token.kind ++ inner.map (fun _ => .blockEnd) = kinds
  key : lexer.key = none
  outerKeys : lexer.outerKeys = []
  keyAllowed : lexer.keyAllowed = true
  ended : lexer.ended = false
  released : lexer.released = 0

variable {mark : Mark} {cs : List Char} {kinds : List TokenKind} {indents : List Nat}
  {keyAllowed : Bool} {column : Nat} {lexer : Lexer}

/-- A harmless key stays harmless, or lapses. -/
theorem expireKey_harmless {key? : Option PossibleKey} (h : Harmless mark key?) (now : Mark) :
    ∃ result, expireKey now key? = .ok result ∧ Harmless mark result ∧
      (mark.line < now.line → result = none) := by
  cases key? with
  | none => exact ⟨none, rfl, h, fun _ => rfl⟩
  | some key =>
    obtain ⟨hrequired, hline⟩ := h key rfl
    rw [expireKey]
    split
    · exact ⟨none, by simp [abandonKey, hrequired, pure, Except.pure, bind, Except.bind],
        by simp [Harmless], fun _ => rfl⟩
    · rename_i hstale
      refine ⟨some key, rfl, h, fun hnow => ?_⟩
      rw [PossibleKey.isStale] at hstale
      exact absurd (by simp; omega) hstale

/-- Outside of brackets, possible keys are harmless or lapse. -/
theorem expireKeys_harmless (hkey : Harmless mark lexer.key) (houter : lexer.outerKeys = [])
    (now : Mark) :
    ∃ key?, lexer.expireKeys now = .ok { lexer with key := key? } ∧ Harmless mark key? ∧
      (mark.line < now.line → key? = none) := by
  obtain ⟨result, hresult, hharmless, hlapsed⟩ := expireKey_harmless hkey now
  refine ⟨result, ?_, hharmless, hlapsed⟩
  rw [expireKeys, houter, hresult]
  cases lexer
  simp_all [pure, Except.pure, bind, Except.bind]

/-! ## On to the next sign -/

/-- The lexer behind a sign, at the next sign, with another possible key. -/
def movedOn (key? : Option PossibleKey) (lexer : Lexer) : Lexer :=
  { lexer with
    rest := (toNextSign false lexer.keyAllowed false lexer.rest).2
    keyAllowed := (toNextSign false lexer.keyAllowed false lexer.rest).1
    key := key? }

/-- Going on to the next sign fails nowhere, and on another line no possible key is left. -/
theorem settle_eq (hkey : Harmless mark lexer.key) (houter : lexer.outerKeys = []) :
    ∃ key?, lexer.settle finish = .ok (lexer.movedOn key?) ∧ Harmless mark key? ∧
      (mark.line < (hereOr finish (lexer.movedOn key?).rest).line → key? = none) := by
  obtain ⟨early, hearly, hharmless, -⟩ :=
    expireKeys_harmless hkey houter (lexer.mark finish)
  obtain ⟨late, hlate, hharmless', hlapsed⟩ :=
    @expireKeys_harmless mark (lexer.movedOn early) hharmless houter
      (hereOr finish (lexer.movedOn early).rest)
  have hflow : ({ lexer with key := early } : Lexer).inFlow = false := by
    simp [inFlow, houter]
  refine ⟨late, ?_, hharmless', hlapsed⟩
  rw [settle, hearly]
  show arrive finish { lexer with key := early } = _
  rw [arrive, hflow]
  exact hlate

/-- From one line on to the first sign of a further line. -/
theorem settle_reached {next : Mark} (hkey : Harmless mark lexer.key)
    (houter : lexer.outerKeys = []) (hkinds : lexer.held.map Token.kind = kinds)
    (hindents : lexer.indents = indents) (hended : lexer.ended = false)
    (hreleased : lexer.released = 0) (hcolumn : next.column = 0)
    (hline : mark.line < next.line) (hfinish : finish = (place next cs).2)
    (hsigns : toNextSign false lexer.keyAllowed false lexer.rest =
      toNextSign false true false (place next cs).1) (column : Nat) :
    ∃ last, lexer.settle finish = .ok last ∧ Reached finish cs kinds indents column last := by
  obtain ⟨key?, hsettle, -, hlapsed⟩ := @settle_eq finish mark lexer hkey houter
  have hrest : (lexer.movedOn key?).rest = (toNextSign false true false (place next cs).1).2 :=
    congrArg Prod.snd hsigns
  have hlate : next.line ≤ (hereOr finish (lexer.movedOn key?).rest).line := by
    obtain ⟨hglyphs, hend⟩ := line_le_place next cs
    have hsuffix := toNextSign_suffix false true false (place next cs).1
    rw [hrest]
    cases hsign : (toNextSign false true false (place next cs).1).2 with
    | nil =>
      rw [hfinish]
      exact hend
    | cons g gs =>
      rw [hsign] at hsuffix
      exact hglyphs g (hsuffix.subset List.mem_cons_self)
  refine ⟨_, hsettle, ⟨next, hcolumn, hfinish, hrest⟩,
    ⟨[], by simp, hindents, by simpa [movedOn] using hkinds⟩,
    hlapsed (by omega), houter, ?_, hended, hreleased⟩
  show (toNextSign false lexer.keyAllowed false lexer.rest).1 = true
  rw [hsigns]
  exact toNextSign_keyAllowed _ _ _

/-- Behind the last sign of a line, the next sign is that of the following lines. -/
theorem Within.settle_newline (h : Within finish mark ('\n' :: cs) kinds indents keyAllowed lexer)
    (column : Nat) :
    ∃ last, lexer.settle finish = .ok last ∧ Reached finish cs kinds indents column last := by
  have hsigns : toNextSign false lexer.keyAllowed false lexer.rest =
      toNextSign false true false (place (mark.nextLine 1) cs).1 := by
    rw [h.rest]
    exact toNextSign_newline lexer.keyAllowed false mark cs
  have hcolumn : (mark.nextLine 1).column = 0 := rfl
  have hline : mark.line < (mark.nextLine 1).line := Nat.lt_succ_self mark.line
  exact settle_reached h.key h.outerKeys h.kinds h.indents h.ended h.released hcolumn hline
    h.finish hsigns column

/-- Spaces before a sign of the same line are passed. -/
theorem Within.settle_spaces {count : Nat} {c : Char} (hsign : startsSign c)
    (hline : endsLine c = false)
    (h : Within finish mark (List.replicate count ' ' ++ c :: cs) kinds indents keyAllowed lexer) :
    ∃ last, lexer.settle finish = .ok last ∧
      Within finish (mark.after (List.replicate count ' ')) (c :: cs) kinds indents keyAllowed
        last := by
  obtain ⟨key?, hsettle, hharmless, -⟩ := @settle_eq finish mark lexer h.key h.outerKeys
  have hsigns : toNextSign false lexer.keyAllowed false lexer.rest =
      (lexer.keyAllowed, (place (mark.after (List.replicate count ' ')) (c :: cs)).1) := by
    rw [h.rest, toNextSign_spaces, place_cons hline]
    exact toNextSign_sign hsign false lexer.keyAllowed _
  refine ⟨_, hsettle, ?_, ?_, h.kinds, h.indents, ?_, h.outerKeys, ?_, h.ended, h.released⟩
  · exact congrArg Prod.snd hsigns
  · rw [h.finish, place_spaces]
  · intro key hkey
    obtain ⟨hrequired, hkeyLine⟩ := hharmless key hkey
    exact ⟨hrequired, by simpa using hkeyLine⟩
  · exact (congrArg Prod.fst hsigns).trans h.keyAllowed

/-- Behind the last sign of a line, the lexer comes to the first sign of the following lines. -/
theorem Within.comes_newline (h : Within finish mark ('\n' :: cs) kinds indents keyAllowed lexer)
    (column : Nat) :
    ∃ last, Comes finish lexer last ∧ Reached finish cs kinds indents column last := by
  obtain ⟨last, hsettle, hreached⟩ := h.settle_newline column
  exact ⟨last, ⟨h.ended, last, hsettle, .refl last⟩, hreached⟩

/-! ## Lines -/

/-- At the start of a text, the lexer comes to its first sign. -/
theorem comes_start (cs : List Char) (column : Nat) :
    ∃ last, Comes (place {} cs).2 { rest := (place {} cs).1 } last ∧
      Reached (place {} cs).2 cs [] [] column last := by
  let first : Lexer := { rest := (place {} cs).1 }
  let last : Lexer := { rest := (toNextSign false true false (place {} cs).1).2 }
  have harrive : first.arrive (place {} cs).2 = .ok last := by
    have hallowed := toNextSign_keyAllowed false false (place {} cs).1
    rw [arrive]
    show expireKeys { first with
      rest := (toNextSign false true false (place {} cs).1).2
      keyAllowed := (toNextSign false true false (place {} cs).1).1 } _ = _
    rw [hallowed]
    exact expireKeys_of_none rfl rfl _
  have hsettle : first.settle (place {} cs).2 = .ok last := by
    rw [settle, expireKeys_of_none rfl rfl]
    exact harrive
  exact ⟨last, ⟨rfl, last, hsettle, .refl last⟩,
    ⟨{}, rfl, rfl, rfl⟩, ⟨[], by simp, rfl, rfl⟩, rfl, rfl, rfl, rfl, rfl⟩

/-- Lines that are passed over make no difference. -/
theorem Reached.pass {rest : List Char} (h : Reached finish cs kinds indents column lexer)
    (hpassed : ∀ start : Mark, start.column = 0 → ∃ next, Passed start cs next rest) :
    Reached finish rest kinds indents column lexer := by
  obtain ⟨start, hstart, hfinish, hrest⟩ := h.position
  obtain ⟨next, hnext⟩ := hpassed start hstart
  exact { h with
    position := ⟨next, hnext.column, hfinish.trans hnext.finish,
      hrest.trans (congrArg Prod.snd hnext.signs)⟩ }

/-- Where the lines go on left of a block, the block is closed. -/
theorem Reached.close {i : Nat} (h : Reached finish cs kinds (i :: indents) i lexer)
    (hcolumn : column < i) : Reached finish cs (kinds ++ [.blockEnd]) indents column lexer := by
  obtain ⟨inner, hinner, hblocks, rfl⟩ := h.blocks
  refine { h with blocks := ⟨inner ++ [i], ?_, by simp [hblocks], by simp⟩ }
  intro j hj
  rcases List.mem_append.mp hj with hj | hj
  · exact Nat.lt_trans hcolumn (hinner j hj)
  · rwa [List.mem_singleton.mp hj]

/-! ## At a sign -/

/-- The blocks in front of those that stay open are closed. -/
theorem span_append {inner : List Nat} (hinner : ∀ i ∈ inner, column < i)
    (hindents : ∀ i ∈ indents.head?, i ≤ column) :
    (inner ++ indents).span (column < ·) = (inner, indents) := by
  have hpos : ∀ i ∈ inner, decide (column < i) = true := by simpa using hinner
  have hneg : indents.takeWhile (column < ·) = [] ∧ indents.dropWhile (column < ·) = indents := by
    cases indents with
    | nil => exact ⟨rfl, rfl⟩
    | cons i indents =>
      have hi : ¬column < i := Nat.not_lt.mpr (hindents i rfl)
      simp [hi]
  rw [List.span_eq_takeWhile_dropWhile, List.takeWhile_append_of_pos hpos,
    List.dropWhile_append_of_pos hpos, hneg.1, hneg.2, List.append_nil]

/-- A sign that is right of all open blocks closes none. -/
theorem closeBlocks_eq_self (now : Mark) (h : ∀ i ∈ lexer.indents.head?, i ≤ now.column) :
    lexer.closeBlocks now (now.column < ·) = lexer := by
  have hspan := @span_append lexer.indents now.column [] (by simp) h
  rw [List.nil_append] at hspan
  rw [closeBlocks, hspan]
  simp

/-- A sign that is right of all open blocks closes none. -/
theorem Within.act_eq {c : Char} (hline : endsLine c = false)
    (h : Within finish mark (c :: cs) kinds indents keyAllowed lexer)
    (hindents : ∀ i ∈ indents.head?, i ≤ mark.column) :
    lexer.act finish = lexer.dispatch finish mark := by
  have hmark : hereOr finish lexer.rest = mark := by
    rw [h.rest, place_cons hline]
    rfl
  rw [act, hmark, closeBlocks_eq_self mark (by rwa [h.indents])]

/-- At a sign that starts a line, the blocks right of it are closed. -/
theorem Reached.act_eq {count : Nat} {c : Char} (hsign : startsSign c)
    (hline : endsLine c = false)
    (h : Reached finish (List.replicate count ' ' ++ c :: cs) kinds indents column lexer)
    (hcount : count ≤ column) (hindents : ∀ i ∈ indents.head?, i ≤ count) :
    ∃ mark closed, mark.column = count ∧ lexer.act finish = closed.dispatch finish mark ∧
      closed.key = none ∧ Within finish mark (c :: cs) kinds indents true closed := by
  obtain ⟨start, hstart, hfinish, hrest⟩ := h.position
  obtain ⟨inner, hinner, hblocks, hkinds⟩ := h.blocks
  have hcolumn : (start.after (List.replicate count ' ')).column = count := by
    simp [hstart]
  have hrest' : lexer.rest = (place (start.after (List.replicate count ' ')) (c :: cs)).1 := by
    rw [hrest, toNextSign_spaces, place_cons hline, toNextSign_sign hsign]
  have hmark : hereOr finish lexer.rest = start.after (List.replicate count ' ') := by
    rw [hrest', place_cons hline]
    rfl
  have hclose : lexer.closeBlocks (start.after (List.replicate count ' '))
      ((start.after (List.replicate count ' ')).column < ·) =
        { lexer with
          held := lexer.held ++
            inner.map fun _ => ⟨.blockEnd, start.after (List.replicate count ' ')⟩
          indents := indents } := by
    rw [closeBlocks, hblocks, hcolumn,
      span_append (fun i hi => Nat.lt_of_le_of_lt hcount (hinner i hi)) hindents]
    simp [inFlow, h.outerKeys]
  refine ⟨start.after (List.replicate count ' '), _, hcolumn, by rw [act, hmark], ?_⟩
  rw [hclose]
  refine ⟨h.key, hrest', ?_, ?_, rfl, ?_, h.outerKeys, h.keyAllowed, h.ended, h.released⟩
  · rw [hfinish, place_spaces]
  · rw [← hkinds]
    simp
  · simp [Harmless, h.key]

end ConfigSchema.Yaml.Lexer
