import ConfigSchema.Proofs.Yaml.Lexer.Scalar

/-!
# The lexer at the signs of block collections

What the lexer does at a scalar, at a key with its colon, at the dash of an item and at the brackets
of an empty collection, from the sign on to behind the sign or to the next line.

## Main definitions

- `Lexer.opener` — the token that opens a block collection, unless one is open
- `Lexer.Brackets` — the brackets of an empty collection

## Main statements

- `Lexer.act_scalar`, `Lexer.Within.comes_scalar` — a scalar at the end of its line
- `Lexer.Reached.passes_keyText` — a key and the colon after it
- `Lexer.Reached.act_dash` — the dash of an item
- `Lexer.act_brackets`, `Lexer.Within.comes_brackets` — an empty collection
-/

namespace ConfigSchema.Yaml.Lexer

variable {finish mark : Mark} {cs ds : List Char} {kind : TokenKind} {kinds : List TokenKind}
  {indents : List Nat} {keyAllowed : Bool} {column : Nat} {lexer : Lexer}

/-! ## Possible keys -/

/-- A harmless key is given up. -/
theorem dropKey_harmless (hkey : Harmless mark lexer.key) (now : Mark) :
    lexer.dropKey now = .ok { lexer with key := none } := by
  rw [dropKey]
  cases hcase : lexer.key with
  | none => rfl
  | some key => simp [abandonKey, (hkey key hcase).1, pure, Except.pure, bind, Except.bind]

/-- A node that may be a key is remembered in place of a harmless one. -/
theorem saveKey_eq (hkey : Harmless mark lexer.key) (houter : lexer.outerKeys = [])
    (hallowed : lexer.keyAllowed = true) (now : Mark) :
    lexer.saveKey now = .ok { lexer with
      key := some ⟨lexer.indents.head? == some now.column,
        lexer.released + lexer.held.length, now⟩ } := by
  rw [saveKey, if_pos hallowed, dropKey_harmless hkey]
  simp [inFlow, houter, pure, Except.pure, bind, Except.bind]

/-- A node right of the open blocks may be a key, and is a harmless one. -/
theorem saveKey_harmless (hkey : Harmless mark lexer.key) (houter : lexer.outerKeys = [])
    (hcolumn : ∀ i ∈ lexer.indents.head?, i < mark.column) :
    ∃ key?, lexer.saveKey mark = .ok { lexer with key := key? } ∧ Harmless mark key? := by
  by_cases hallowed : lexer.keyAllowed = true
  · have hrequired : (lexer.indents.head? == some mark.column) = false := by
      cases hhead : lexer.indents.head? with
      | none => rfl
      | some i =>
        have hi := hcolumn i hhead
        simp
        omega
    refine ⟨_, saveKey_eq hkey houter hallowed mark, ?_⟩
    intro key hkey
    obtain rfl := Option.some.inj hkey
    exact ⟨hrequired, Nat.le_refl _⟩
  · refine ⟨lexer.key, ?_, hkey⟩
    rw [saveKey, if_neg hallowed]
    rfl

/-! ## Scalars -/

/-- Right of the open blocks, all characters belong to the innermost block. -/
theorem margin_le (hindents : lexer.indents = indents)
    (hcolumn : ∀ i ∈ indents.head?, i < mark.column) : lexer.margin ≤ mark.column := by
  rw [margin, hindents]
  cases hhead : indents.head? with
  | none => exact Nat.zero_le _
  | some i => exact hcolumn i hhead

/-- A scalar at the end of its line is read, and the next line is reached. -/
theorem act_scalar (h : ScalarText cs kind)
    (hwithin : Within finish mark (cs ++ '\n' :: ds) kinds indents keyAllowed lexer)
    (hcolumn : ∀ i ∈ indents.head?, i < mark.column)
    (hdedents : Dedents (indents.head?.elim 0 (· + 1)) ds) (column : Nat) :
    ∃ after last, lexer.act finish = .ok after ∧ Comes finish after last ∧
      Reached finish ds (kinds ++ [kind]) indents column last := by
  obtain ⟨c, rest, rfl, hsign⟩ := h.eq_cons
  have hline : endsLine c = false := (h.inline c (by simp)).1
  have hmargin := margin_le hwithin.indents hcolumn
  have hplace := place_append (fun d hd => (h.inline d hd).1) mark ('\n' :: ds)
  obtain ⟨key?, hsave, hkey⟩ := saveKey_harmless hwithin.key hwithin.outerKeys
    (by rwa [hwithin.indents])
  obtain ⟨after, crossed, hdispatch, hsigns⟩ := dispatch_newline h hwithin
    (by rw [margin, hwithin.indents]; exact hdedents) (by omega) hsave
  have hact := hwithin.act_eq hline fun i hi => Nat.le_of_lt (hcolumn i hi)
  rw [hdispatch] at hact
  obtain ⟨last, hsettle, hreached⟩ := @settle_reached finish mark ds (kinds ++ [kind]) indents
    { push { lexer with key := key? } kind mark with rest := after, keyAllowed := crossed }
    ((mark.after (c :: rest)).nextLine 1) hkey hwithin.outerKeys
    (by simp [push, hwithin.kinds]) hwithin.indents hwithin.ended hwithin.released rfl
    (by simp) (by rw [hwithin.finish, hplace]; rfl) hsigns column
  exact ⟨_, last, hact, ⟨hwithin.ended, last, hsettle, .refl last⟩, hreached⟩

/-- A scalar after a space is read, and the next line is reached. -/
theorem Within.comes_scalar (h : ScalarText cs kind)
    (hwithin : Within finish mark (' ' :: (cs ++ '\n' :: ds)) kinds indents keyAllowed lexer)
    (hcolumn : ∀ i ∈ indents.head?, i ≤ mark.column)
    (hdedents : Dedents (indents.head?.elim 0 (· + 1)) ds) (column : Nat) :
    ∃ last, Comes finish lexer last ∧
      Reached finish ds (kinds ++ [kind]) indents column last := by
  obtain ⟨c, rest, rfl, hsign⟩ := h.eq_cons
  have hline : endsLine c = false := (h.inline c (by simp)).1
  obtain ⟨scalar, hsettle, hat⟩ := @Within.settle_spaces finish mark (rest ++ '\n' :: ds) _ _ _ _ 1
    c hsign hline hwithin
  obtain ⟨after, last, hact, hcomes, hreached⟩ := act_scalar h hat
    (fun i hi => Nat.lt_succ_of_le (hcolumn i hi)) hdedents column
  exact ⟨last, ⟨hwithin.ended, scalar, hsettle, .of_act hact hcomes⟩, hreached⟩

/-! ## Signs of block collections -/

/-- The token that opens a block collection at `column`, unless one is open there. -/
def opener (indents : List Nat) (column : Nat) (kind : TokenKind) : List TokenKind :=
  if indents.head? = some column then [] else [kind]

/-- The open blocks after one has been opened at `column`, unless one is open there. -/
def opened (indents : List Nat) (column : Nat) : List Nat :=
  if indents.head? = some column then indents else column :: indents

theorem head_opened (indents : List Nat) (column : Nat) :
    (opened indents column).head? = some column := by
  rw [opened]
  split
  · assumption
  · rfl

/-- A block collection is opened where none is open. -/
theorem opensBlock_eq (houter : lexer.outerKeys = [])
    (hcolumn : ∀ i ∈ lexer.indents.head?, i ≤ column) :
    lexer.opensBlock column = !decide (lexer.indents.head? = some column) := by
  rw [opensBlock, inFlow, houter]
  cases hhead : lexer.indents.head? with
  | none => rfl
  | some i =>
    have hi := hcolumn i hhead
    have hlt : i < column ↔ ¬i = column := by omega
    simp [hlt]

/-- A block collection is opened, unless one is open. -/
theorem openBlock_eq (houter : lexer.outerKeys = [])
    (hcolumn : ∀ i ∈ lexer.indents.head?, i ≤ mark.column) (opening : TokenKind) :
    ∃ held, lexer.openBlock opening mark =
        { lexer with held := held, indents := opened lexer.indents mark.column } ∧
      held.map Token.kind =
        lexer.held.map Token.kind ++ opener lexer.indents mark.column opening := by
  rw [openBlock, opensBlock_eq houter hcolumn, opener, opened]
  by_cases hhead : lexer.indents.head? = some mark.column
  · rw [if_neg (by simp [hhead]), if_pos hhead, if_pos hhead]
    exact ⟨lexer.held, rfl, (List.append_nil _).symm⟩
  · rw [if_pos (by simp [hhead]), if_neg hhead, if_neg hhead]
    exact ⟨_, rfl, by simp [push]⟩

/-- What goes on with a blank is no marker of a document. -/
theorem startsMarker_of_startsBlank {g : Glyph} {gs : List Glyph} (h : startsBlank gs)
    {x : Char} (hx : isBlankOrBreak x = false) : startsMarker x (g :: gs) = false := by
  match gs with
  | [] => rfl
  | [_] => rfl
  | g₂ :: _ :: _ =>
    have hne : (g₂.char == x) = false := by
      rw [beq_eq_false_iff_ne]
      rintro rfl
      rw [startsBlank] at h
      rw [h] at hx
      cases hx
    simp [startsMarker, hne]

/-- A dash before a blank starts an item. -/
theorem dispatch_dash {gs : List Glyph} (hrest : lexer.rest = ⟨'-', mark⟩ :: gs)
    (hblank : startsBlank gs) : lexer.dispatch finish mark = lexer.fetchBlockEntry mark := by
  have hdash := startsMarker_of_startsBlank (g := ⟨'-', mark⟩) hblank (x := '-') rfl
  have hdots := startsMarker_of_startsBlank (g := ⟨'-', mark⟩) hblank (x := '.') rfl
  rw [dispatch, hrest, hdash, hdots]
  simp [hblank]

/-- A question mark before a blank starts a key. -/
theorem dispatch_question {gs : List Glyph} (hrest : lexer.rest = ⟨'?', mark⟩ :: gs)
    (hblank : startsBlank gs) : lexer.dispatch finish mark = lexer.fetchKey mark := by
  have hdash := startsMarker_of_startsBlank (g := ⟨'?', mark⟩) hblank (x := '-') rfl
  have hdots := startsMarker_of_startsBlank (g := ⟨'?', mark⟩) hblank (x := '.') rfl
  rw [dispatch, hrest, hdash, hdots]
  simp [hblank]

/-- A colon before a blank starts a value. -/
theorem dispatch_value {gs : List Glyph} (hrest : lexer.rest = ⟨':', mark⟩ :: gs)
    (hblank : startsBlank gs) : lexer.dispatch finish mark = lexer.fetchValue mark := by
  have hdash := startsMarker_of_startsBlank (g := ⟨':', mark⟩) hblank (x := '-') rfl
  have hdots := startsMarker_of_startsBlank (g := ⟨':', mark⟩) hblank (x := '.') rfl
  rw [dispatch, hrest, hdash, hdots]
  simp [hblank]

/-- Behind a sign that may have opened a block collection. -/
theorem Within.behind {c : Char}
    (hwithin : Within finish mark (c :: ds) kinds indents keyAllowed lexer)
    (hline : endsLine c = false) {held : List Token} {opening : TokenKind}
    (hheld : held.map Token.kind =
      lexer.held.map Token.kind ++ opener lexer.indents mark.column opening)
    (sign : TokenKind) :
    Within finish (mark.next c) ds (kinds ++ opener indents mark.column opening ++ [sign])
      (opened indents mark.column) true
      { lexer with
        rest := lexer.rest.drop 1
        held := held ++ [⟨sign, mark⟩]
        indents := opened lexer.indents mark.column
        key := none
        keyAllowed := true } := by
  refine ⟨?_, ?_, ?_, ?_, ?_, hwithin.outerKeys, rfl, hwithin.ended, hwithin.released⟩
  · rw [hwithin.rest, place_cons hline]
    rfl
  · rw [hwithin.finish, place_cons hline]
  · simp [hheld, hwithin.kinds, hwithin.indents]
  · rw [hwithin.indents]
  · simp [Harmless]

/-- The dash of an item is read. -/
theorem act_item (hwithin : Within finish mark ('-' :: ds) kinds indents true lexer)
    (hblank : startsBlankText ds) (hcolumn : ∀ i ∈ indents.head?, i ≤ mark.column) :
    ∃ after, lexer.act finish = .ok after ∧
      Within finish (mark.next '-') ds
        (kinds ++ opener indents mark.column .blockSequenceStart ++ [.blockEntry])
        (opened indents mark.column) true after := by
  have hrest : lexer.rest = ⟨'-', mark⟩ :: (place (mark.next '-') ds).1 := by
    rw [hwithin.rest, place_cons rfl]
  obtain ⟨held, hopen, hheld⟩ := openBlock_eq hwithin.outerKeys
    (by rwa [hwithin.indents]) .blockSequenceStart
  have hdrop := @dropKey_harmless mark { lexer with
    held := held, indents := opened lexer.indents mark.column } hwithin.key mark
  refine ⟨_, ?_, hwithin.behind rfl hheld .blockEntry⟩
  rw [hwithin.act_eq rfl hcolumn, dispatch_dash hrest (startsBlank_place hblank _),
    fetchBlockEntry, hwithin.keyAllowed, hopen, hdrop]
  simp only [Bool.not_true, Bool.and_false, Bool.false_eq_true, if_false]
  rfl

/-- The question mark of a key is read. -/
theorem act_question (hwithin : Within finish mark ('?' :: ds) kinds indents true lexer)
    (hblank : startsBlankText ds) (hcolumn : ∀ i ∈ indents.head?, i ≤ mark.column) :
    ∃ after, lexer.act finish = .ok after ∧
      Within finish (mark.next '?') ds
        (kinds ++ opener indents mark.column .blockMappingStart ++ [.key])
        (opened indents mark.column) true after := by
  have hrest : lexer.rest = ⟨'?', mark⟩ :: (place (mark.next '?') ds).1 := by
    rw [hwithin.rest, place_cons rfl]
  obtain ⟨held, hopen, hheld⟩ := openBlock_eq hwithin.outerKeys
    (by rwa [hwithin.indents]) .blockMappingStart
  have hdrop := @dropKey_harmless mark { lexer with
    held := held, indents := opened lexer.indents mark.column } hwithin.key mark
  refine ⟨_, ?_, hwithin.behind rfl hheld .key⟩
  rw [hwithin.act_eq rfl hcolumn, dispatch_question hrest (startsBlank_place hblank _),
    fetchKey, hwithin.keyAllowed, hopen, hdrop]
  simp [push, skip, inFlow, hwithin.outerKeys, bind, Except.bind, pure, Except.pure]

/-- The colon of a key on a line of its own is read. -/
theorem act_value (hwithin : Within finish mark (':' :: ds) kinds indents true lexer)
    (hkey : lexer.key = none) (hblank : startsBlankText ds)
    (hopen : indents.head? = some mark.column) :
    ∃ after, lexer.act finish = .ok after ∧
      Within finish (mark.next ':') ds (kinds ++ [.value]) indents true after := by
  have hrest : lexer.rest = ⟨':', mark⟩ :: (place (mark.next ':') ds).1 := by
    rw [hwithin.rest, place_cons rfl]
  have hcolumn : ∀ i ∈ indents.head?, i ≤ mark.column := by simp [hopen]
  have hheld : lexer.held.map Token.kind =
      lexer.held.map Token.kind ++ opener lexer.indents mark.column .blockMappingStart := by
    simp [opener, hwithin.indents, hopen]
  have hbehind := hwithin.behind rfl hheld .value
  rw [opener, opened, if_pos hopen, if_pos hopen, List.append_nil] at hbehind
  refine ⟨_, ?_, hbehind⟩
  rw [hwithin.act_eq rfl hcolumn, dispatch_value hrest (startsBlank_place hblank _),
    fetchValue, hkey, hwithin.keyAllowed]
  simp [openBlock, opensBlock, opened, push, skip, inFlow, hwithin.outerKeys, hwithin.indents,
    hopen, hkey, pure, Except.pure]

/-! ## Keys -/

/-- A sign is acted on where it stands, if it is right of all open blocks. -/
theorem act_of_rest {c : Char} {gs : List Glyph} (hrest : lexer.rest = ⟨c, mark⟩ :: gs)
    (hindents : ∀ i ∈ lexer.indents.head?, i ≤ mark.column) :
    lexer.act finish = lexer.dispatch finish mark := by
  have hmark : hereOr finish lexer.rest = mark := by
    rw [hrest]
    rfl
  rw [act, hmark, closeBlocks_eq_self mark hindents]

/-- At a sign, a possible key that has not lapsed stays possible. -/
theorem settle_fresh {c : Char} {gs : List Glyph} (hrest : lexer.rest = ⟨c, mark⟩ :: gs)
    (hsign : startsSign c) (houter : lexer.outerKeys = []) (hended : lexer.ended = false)
    (hkey : ∀ key ∈ lexer.key, key.isStale mark = false) :
    lexer.settle finish = .ok lexer := by
  have hexpire : lexer.expireKeys mark = .ok lexer := by
    cases hcase : lexer.key with
    | none => exact expireKeys_of_none hcase houter mark
    | some key =>
      have hfresh : expireKey mark (some key) = .ok (some key) := by
        rw [expireKey, if_neg (by simp [hkey key hcase])]
        rfl
      rw [expireKeys, houter, hcase, hfresh]
      cases lexer
      simp_all [pure, Except.pure, bind, Except.bind]
  have hmark : lexer.mark finish = mark := by
    rw [Lexer.mark, hended, hrest]
    rfl
  have hnext : toNextSign lexer.inFlow lexer.keyAllowed false lexer.rest =
      (lexer.keyAllowed, lexer.rest) := by
    rw [hrest]
    exact toNextSign_sign hsign _ _ _
  rw [settle, hmark, hexpire]
  show arrive finish lexer = _
  rw [arrive, hnext]
  show lexer.expireKeys (hereOr finish lexer.rest) = _
  rw [hrest]
  exact hexpire

/-- A token is put before those that came after a number of others. -/
theorem insertIdx_length_append {α : Type} (before after : List α) (x : α) :
    (before ++ after).insertIdx before.length x = before ++ x :: after := by
  induction before with
  | nil => rfl
  | cons y before ih => rw [List.cons_append, List.length_cons, List.insertIdx_succ_cons, ih]; rfl

/-- A block mapping is opened before its first key. -/
theorem openBlockAt_eq {before after : List Token} (houter : lexer.outerKeys = [])
    (hcolumn : ∀ i ∈ lexer.indents.head?, i ≤ mark.column) (hreleased : lexer.released = 0)
    (hheld : lexer.held = before ++ after) :
    ∃ held, lexer.openBlockAt before.length mark =
        { lexer with held := held, indents := opened lexer.indents mark.column } ∧
      held.map Token.kind = before.map Token.kind ++
        opener lexer.indents mark.column .blockMappingStart ++ after.map Token.kind := by
  rw [openBlockAt, opensBlock_eq houter hcolumn, opener, opened]
  by_cases hhead : lexer.indents.head? = some mark.column
  · rw [if_neg (by simp [hhead]), if_pos hhead, if_pos hhead]
    exact ⟨lexer.held, rfl, by simp [hheld]⟩
  · rw [if_pos (by simp [hhead]), if_neg hhead, if_neg hhead, insertAt, hreleased, hheld,
      Nat.sub_zero, insertIdx_length_append]
    exact ⟨_, rfl, by simp⟩

/-- The colon after a possible key is read. -/
theorem act_value_of_key {colon : Mark} {gs : List Glyph} {before : List Token} {token : Token}
    {required : Bool} (hrest : lexer.rest = ⟨':', colon⟩ :: gs) (hblank : startsBlank gs)
    (hkey : lexer.key = some ⟨required, before.length, mark⟩)
    (hheld : lexer.held = before ++ [token]) (houter : lexer.outerKeys = [])
    (hreleased : lexer.released = 0) (hcolon : mark.column ≤ colon.column)
    (hcolumn : ∀ i ∈ lexer.indents.head?, i ≤ mark.column) :
    ∃ held, lexer.act finish = .ok { lexer with
          rest := gs
          held := held
          indents := opened lexer.indents mark.column
          key := none
          keyAllowed := false } ∧
      held.map Token.kind = before.map Token.kind ++
        opener lexer.indents mark.column .blockMappingStart ++ [.key, token.kind, .value] := by
  have hinsert : lexer.insertAt before.length .key mark =
      { lexer with held := before ++ [⟨.key, mark⟩, token] } := by
    rw [insertAt, hreleased, hheld, Nat.sub_zero, insertIdx_length_append]
  obtain ⟨held, hopen, hkinds⟩ := @openBlockAt_eq mark
    { lexer with held := before ++ [⟨.key, mark⟩, token] } before [⟨.key, mark⟩, token] houter
    hcolumn hreleased rfl
  refine ⟨held ++ [⟨.value, colon⟩], ?_, by simp [hkinds]⟩
  rw [act_of_rest hrest fun i hi => Nat.le_trans (hcolumn i hi) hcolon,
    dispatch_value hrest hblank, fetchValue, hkey]
  dsimp only
  rw [hinsert, hopen, push, skip]
  dsimp only
  rw [hrest]
  rfl

/-- A key and the colon after it are read. -/
theorem passes_key (h : ScalarText cs kind)
    (hwithin : Within finish mark (cs ++ ':' :: ds) kinds indents true lexer)
    (hsize : (String.ofList cs).utf8ByteSize ≤ 1024) (hblank : startsBlankText ds)
    (hcolumn : ∀ i ∈ indents.head?, i ≤ mark.column) :
    ∃ after, Passes finish lexer after ∧
      Within finish ((mark.after cs).next ':') ds
        (kinds ++ opener indents mark.column .blockMappingStart ++ [.key, kind, .value])
        (opened indents mark.column) false after := by
  obtain ⟨c, rest, hcs, hsign⟩ := h.eq_cons
  have hline : endsLine c = false := (h.inline c (by simp [hcs])).1
  have hplace := place_append (fun d hd => (h.inline d hd).1) mark (':' :: ds)
  have hrest : (place (mark.after cs) (':' :: ds)).1 =
      ⟨':', mark.after cs⟩ :: (place ((mark.after cs).next ':') ds).1 := by rw [place_cons rfl]
  have hmargin : lexer.margin ≤ mark.column + 1 := by
    rw [margin, hwithin.indents]
    cases hhead : indents.head? with
    | none => exact Nat.zero_le _
    | some i => exact Nat.succ_le_succ (hcolumn i hhead)
  have hcolumn' : ∀ i ∈ lexer.indents.head?, i ≤ mark.column := by rwa [hwithin.indents]
  -- the scalar is read, and may be a key
  let required := lexer.indents.head? == some mark.column
  let scalar : Lexer := { lexer with
    rest := (place (mark.after cs) (':' :: ds)).1
    held := lexer.held ++ [⟨kind, mark⟩]
    key := some ⟨required, lexer.held.length, mark⟩
    keyAllowed := false }
  have hscalar : lexer.act finish = .ok scalar := by
    have hnumber : lexer.released + lexer.held.length = lexer.held.length := by
      rw [hwithin.released, Nat.zero_add]
    have hsave := saveKey_eq hwithin.key hwithin.outerKeys hwithin.keyAllowed mark
    rw [hnumber] at hsave
    subst hcs
    rw [hwithin.act_eq hline hcolumn, dispatch_colon h hwithin hblank hmargin hsave]
    rfl
  -- it still may be one at the colon
  have hfresh : (⟨required, lexer.held.length, mark⟩ : PossibleKey).isStale (mark.after cs) =
      false := by
    have hoffset := Mark.after_offset mark cs
    have hsame := Mark.after_line mark cs
    simp only [PossibleKey.isStale, Bool.or_eq_false_iff, decide_eq_false_iff_not]
    omega
  have hsettle : scalar.settle finish = .ok scalar := by
    refine settle_fresh hrest rfl hwithin.outerKeys hwithin.ended fun key hkey => ?_
    obtain rfl := Option.some.inj hkey
    exact hfresh
  obtain ⟨held, hact, hkinds⟩ := @act_value_of_key finish mark scalar (mark.after cs)
    (place ((mark.after cs).next ':') ds).1 lexer.held ⟨kind, mark⟩ required hrest
    (startsBlank_place hblank _) rfl rfl hwithin.outerKeys hwithin.released (by simp) hcolumn'
  refine ⟨_, ⟨scalar, .head hscalar hwithin.ended hsettle (.refl scalar), hact⟩, rfl, ?_, ?_, ?_,
    ?_, hwithin.outerKeys, rfl, hwithin.ended, hwithin.released⟩
  · rw [hwithin.finish, hplace, place_cons rfl]
  · rw [hkinds, hwithin.kinds, ← hwithin.indents]
  · rw [← hwithin.indents]
  · simp [Harmless]

/-- A key on a line of its own, and the colon on the next line, are read. -/
theorem passes_longKey (h : ScalarText cs kind)
    (hwithin : Within finish mark
      ('?' :: ' ' :: (cs ++ '\n' :: (List.replicate mark.column ' ' ++ ':' :: ds)))
      kinds indents true lexer)
    (hblank : startsBlankText ds) (hcolumn : ∀ i ∈ indents.head?, i ≤ mark.column) :
    ∃ after mark', Passes finish lexer after ∧ mark'.column = mark.column + 1 ∧
      Within finish mark' ds
        (kinds ++ opener indents mark.column .blockMappingStart ++ [.key, kind, .value])
        (opened indents mark.column) true after := by
  obtain ⟨c, rest, hcs, hsign⟩ := h.eq_cons
  have hline : endsLine c = false := (h.inline c (by simp [hcs])).1
  have hhead := head_opened indents mark.column
  -- the question mark
  obtain ⟨question, hquestion, hbehind⟩ := act_question hwithin rfl hcolumn
  obtain ⟨scalar, hscalar, hbefore⟩ :=
    @Within.settle_spaces finish (mark.next '?')
      (rest ++ '\n' :: (List.replicate mark.column ' ' ++ ':' :: ds)) _ _ _ _ 1 c hsign hline
      (by rw [hcs] at hbehind; exact hbehind)
  rw [← List.cons_append, ← hcs] at hbefore
  -- the scalar, up to the next line
  obtain ⟨behind, colon, hread, hcomes, hreached⟩ := act_scalar h hbefore
    (by simp only [hhead, Option.mem_some_iff, forall_eq', Mark.after_column, Mark.next]; omega)
    (hhead ▸ ⟨mark.column, ':' :: ds, rfl, .inr ⟨':', ds, rfl, rfl, rfl,
      .inr (Nat.lt_succ_self mark.column)⟩⟩)
    mark.column
  -- the colon
  obtain ⟨mark', closed, hmark', hclose, hnokey, hat⟩ :=
    hreached.act_eq rfl rfl (Nat.le_refl _) (by simp [hhead])
  obtain ⟨after, hact, hlast⟩ := act_value hat hnokey hblank (by rw [hhead, hmark'])
  rw [hat.act_eq rfl (by simp [hhead, hmark'])] at hact
  have hcolumn' : (mark'.next ':').column = mark.column + 1 := congrArg (· + 1) hmark'
  refine ⟨after, mark'.next ':', ⟨colon, .head hquestion hbehind.ended hscalar
    (.of_act hread hcomes), hclose.trans hact⟩, hcolumn', ?_⟩
  simpa using hlast

/-- A key that starts a line and the colon after it are read, on one line or on two. -/
theorem Reached.passes_keyText {key : String} (h : ScalarText key.toList kind)
    (hreached : Reached finish ((BlockText.keyText column key).toList ++ ds) kinds indents column
      lexer)
    (hblank : startsBlankText ds) (hcolumn : ∀ i ∈ indents.head?, i ≤ column) :
    ∃ after mark keyAllowed, Passes finish lexer after ∧ column < mark.column ∧
      Within finish mark ds
        (kinds ++ opener indents column .blockMappingStart ++ [.key, kind, .value])
        (opened indents column) keyAllowed after := by
  rw [BlockText.keyText] at hreached
  split at hreached
  · rename_i hsize
    obtain ⟨c, rest, hcs, hsign⟩ := h.eq_cons
    have hline : endsLine c = false := (h.inline c (by simp [hcs])).1
    have htext : (spaces column ++ key ++ ":").toList ++ ds =
        List.replicate column ' ' ++ c :: (rest ++ ':' :: ds) := by
      simp [spaces, hcs]
    rw [htext] at hreached
    obtain ⟨mark, closed, rfl, hact, -, hat⟩ := hreached.act_eq hsign hline (Nat.le_refl _) hcolumn
    rw [← List.cons_append, ← hcs] at hat
    obtain ⟨after, hpasses, hbehind⟩ := passes_key h hat
      (by rw [String.ofList_toList]; exact Nat.le_of_lt hsize) hblank hcolumn
    refine ⟨after, _, _, hpasses.of_act_eq ?_, ?_, hbehind⟩
    · rw [hcs] at hat
      rw [hact, hat.act_eq hline hcolumn]
    · show mark.column < (mark.after key.toList).column + 1
      rw [Mark.after_column]
      omega
  · have htext : (spaces column ++ "? " ++ key ++ "\n" ++ spaces column ++ ":").toList ++ ds =
        List.replicate column ' ' ++ '?' :: (' ' :: (key.toList ++ '\n' ::
          (List.replicate column ' ' ++ ':' :: ds))) := by
      simp [spaces]
    rw [htext] at hreached
    obtain ⟨mark, closed, rfl, hact, -, hat⟩ := hreached.act_eq rfl rfl (Nat.le_refl _) hcolumn
    obtain ⟨after, mark', hpasses, hmark', hbehind⟩ := passes_longKey h hat hblank hcolumn
    refine ⟨after, mark', _, hpasses.of_act_eq ?_, by omega, hbehind⟩
    rw [hact, hat.act_eq rfl hcolumn]

/-- A dash that starts a line is read. -/
theorem Reached.act_dash
    (hreached : Reached finish (List.replicate column ' ' ++ '-' :: ds) kinds indents column lexer)
    (hblank : startsBlankText ds) (hcolumn : ∀ i ∈ indents.head?, i ≤ column) :
    ∃ after mark, lexer.act finish = .ok after ∧ column < mark.column ∧
      Within finish mark ds
        (kinds ++ opener indents column .blockSequenceStart ++ [.blockEntry])
        (opened indents column) true after := by
  obtain ⟨mark, closed, rfl, hact, -, hat⟩ := hreached.act_eq rfl rfl (Nat.le_refl _) hcolumn
  obtain ⟨after, hitem, hbehind⟩ := act_item hat hblank hcolumn
  refine ⟨after, _, ?_, Nat.lt_succ_self mark.column, hbehind⟩
  rw [hact, ← hat.act_eq rfl hcolumn]
  exact hitem

/-! ## Empty collections -/

/-- The brackets of an empty collection, and their tokens. -/
inductive Brackets : (left right : Char) → (start stop : TokenKind) → Prop where
  | mapping : Brackets '\x7b' '\x7d' .flowMappingStart .flowMappingEnd
  | sequence : Brackets '[' ']' .flowSequenceStart .flowSequenceEnd

variable {left right : Char} {start stop : TokenKind}

theorem Brackets.not_endsLine (h : Brackets left right start stop) :
    endsLine left = false ∧ endsLine right = false := by
  cases h <;> exact ⟨rfl, rfl⟩

theorem Brackets.startsSign (h : Brackets left right start stop) :
    Yaml.startsSign left ∧ Yaml.startsSign right := by
  cases h <;> exact ⟨rfl, rfl⟩

/-- A bracket is no marker of a document. -/
theorem startsMarker_of_ne {x : Char} {g : Glyph} (h : g.char ≠ x) (gs : List Glyph) :
    startsMarker x (g :: gs) = false := by
  match gs with
  | [] | [_] => rfl
  | _ :: _ :: _ => simp [startsMarker, h]

/-- An opening bracket starts a collection. -/
theorem dispatch_left (h : Brackets left right start stop) {gs : List Glyph}
    (hrest : lexer.rest = ⟨left, mark⟩ :: gs) :
    lexer.dispatch finish mark = lexer.fetchFlowStart start mark := by
  have hmarker (x : Char) (hx : left ≠ x) : startsMarker x lexer.rest = false := by
    rw [hrest]
    exact startsMarker_of_ne hx gs
  cases h <;> rw [dispatch, hmarker '-' (by decide), hmarker '.' (by decide), hrest] <;> simp

/-- A closing bracket ends a collection. -/
theorem dispatch_right (h : Brackets left right start stop) {gs : List Glyph}
    (hrest : lexer.rest = ⟨right, mark⟩ :: gs) :
    lexer.dispatch finish mark = lexer.fetchFlowEnd stop mark := by
  have hmarker (x : Char) (hx : right ≠ x) : startsMarker x lexer.rest = false := by
    rw [hrest]
    exact startsMarker_of_ne hx gs
  cases h <;> rw [dispatch, hmarker '-' (by decide), hmarker '.' (by decide), hrest] <;> simp

/-- Inside one pair of brackets, a harmless key of the outer level stays harmless or lapses. -/
theorem expireKeys_flow {outer : Option PossibleKey} (hkey : lexer.key = none)
    (houter : lexer.outerKeys = [outer]) (hharmless : Harmless mark outer) (now : Mark) :
    ∃ outer', lexer.expireKeys now = .ok { lexer with outerKeys := [outer'] } ∧
      Harmless mark outer' := by
  obtain ⟨outer', hresult, hharmless', -⟩ := expireKey_harmless hharmless now
  refine ⟨outer', ?_, hharmless'⟩
  rw [expireKeys, houter, hkey]
  cases lexer
  simp_all [expireKey, pure, Except.pure, bind, Except.bind]

/-- Inside one pair of brackets, the lexer stays at a sign. -/
theorem settle_flow {outer : Option PossibleKey} {c : Char} {gs : List Glyph}
    (hrest : lexer.rest = ⟨c, mark⟩ :: gs) (hsign : startsSign c) (hkey : lexer.key = none)
    (houter : lexer.outerKeys = [outer]) (hharmless : Harmless mark outer) :
    ∃ outer', lexer.settle finish = .ok { lexer with outerKeys := [outer'] } ∧
      Harmless mark outer' := by
  obtain ⟨early, hearly, hharmless⟩ :=
    expireKeys_flow hkey houter hharmless (lexer.mark finish)
  obtain ⟨late, hlate, hharmless⟩ :=
    @expireKeys_flow mark { lexer with outerKeys := [early] } early hkey rfl hharmless
      (hereOr finish lexer.rest)
  refine ⟨late, ?_, hharmless⟩
  rw [settle, hearly]
  show arrive finish { lexer with outerKeys := [early] } = _
  have hnext (inFlow : Bool) : toNextSign inFlow lexer.keyAllowed false lexer.rest =
      (lexer.keyAllowed, lexer.rest) := by
    rw [hrest]
    exact toNextSign_sign hsign _ _ _
  rw [arrive]
  dsimp only
  rw [hnext]
  exact hlate

/-- An empty collection at the end of its line is read, and the next line is reached. -/
theorem act_brackets (h : Brackets left right start stop)
    (hwithin : Within finish mark (left :: right :: '\n' :: ds) kinds indents keyAllowed lexer)
    (hcolumn : ∀ i ∈ indents.head?, i < mark.column) (column : Nat) :
    ∃ after last, lexer.act finish = .ok after ∧ Comes finish after last ∧
      Reached finish ds (kinds ++ [start, stop]) indents column last := by
  have hleft : lexer.rest = ⟨left, mark⟩ :: ⟨right, mark.next left⟩ ::
      (place ((mark.next left).next right) ('\n' :: ds)).1 := by
    rw [hwithin.rest, place_cons h.not_endsLine.1, place_cons h.not_endsLine.2]
  obtain ⟨outer, hsave, hharmless⟩ := saveKey_harmless hwithin.key hwithin.outerKeys
    (by rwa [hwithin.indents])
  -- the opening bracket
  let inside : Lexer := { lexer with
    rest := lexer.rest.drop 1
    held := lexer.held ++ [⟨start, mark⟩]
    key := none
    outerKeys := [outer]
    keyAllowed := true }
  have hopen : lexer.act finish = .ok inside := by
    rw [hwithin.act_eq h.not_endsLine.1 fun i hi => Nat.le_of_lt (hcolumn i hi),
      dispatch_left h hleft, fetchFlowStart, hsave]
    simp [push, skip, hwithin.outerKeys, inside, bind, Except.bind, pure, Except.pure]
  -- the closing bracket
  have hright : inside.rest = ⟨right, mark.next left⟩ ::
      (place ((mark.next left).next right) ('\n' :: ds)).1 := by
    show lexer.rest.drop 1 = _
    rw [hleft]
    rfl
  obtain ⟨outer', hsettle, hharmless'⟩ := @settle_flow finish (mark.next left) inside outer right
    _ hright h.startsSign.2 rfl rfl hharmless
  let behind : Lexer := { lexer with
    rest := inside.rest.drop 1
    held := lexer.held ++ [⟨start, mark⟩, ⟨stop, mark.next left⟩]
    key := outer'
    outerKeys := []
    keyAllowed := false }
  have hclose : act finish { inside with outerKeys := [outer'] } = .ok behind := by
    have hnext : hereOr finish inside.rest = mark.next left := by
      rw [hright]
      rfl
    have hflow : ({ inside with outerKeys := [outer'] } : Lexer).inFlow = true := rfl
    have hstay : closeBlocks { inside with outerKeys := [outer'] } (mark.next left)
        ((mark.next left).column < ·) = { inside with outerKeys := [outer'] } := by
      rw [closeBlocks, hflow]
      rfl
    rw [act]
    dsimp only
    rw [hnext, hstay, dispatch_right h (by exact hright), fetchFlowEnd]
    simp [dropKey, abandonKey, push, skip, inside, behind, bind, Except.bind, pure, Except.pure]
  -- the end of the line
  have hbehind : Within finish ((mark.next left).next right) ('\n' :: ds)
      (kinds ++ [start, stop]) indents false behind := by
    refine ⟨?_, ?_, ?_, hwithin.indents, hharmless', rfl, rfl, hwithin.ended, hwithin.released⟩
    · show inside.rest.drop 1 = _
      rw [hright]
      rfl
    · rw [hwithin.finish, place_cons h.not_endsLine.1, place_cons h.not_endsLine.2]
    · simp [behind, hwithin.kinds]
  obtain ⟨last, hlast, hreached⟩ := hbehind.settle_newline column
  exact ⟨inside, last, hopen, ⟨hwithin.ended, _, hsettle,
    .head hclose hwithin.ended hlast (.refl last)⟩, hreached⟩

/-- An empty collection after a space is read, and the next line is reached. -/
theorem Within.comes_brackets (h : Brackets left right start stop)
    (hwithin : Within finish mark (' ' :: left :: right :: '\n' :: ds) kinds indents keyAllowed
      lexer)
    (hcolumn : ∀ i ∈ indents.head?, i ≤ mark.column) (column : Nat) :
    ∃ last, Comes finish lexer last ∧
      Reached finish ds (kinds ++ [start, stop]) indents column last := by
  obtain ⟨bracket, hsettle, hat⟩ := @Within.settle_spaces finish mark (right :: '\n' :: ds) _ _ _ _
    1 left h.startsSign.1 h.not_endsLine.1 hwithin
  obtain ⟨after, last, hact, hcomes, hreached⟩ := act_brackets h hat
    (fun i hi => Nat.lt_succ_of_le (hcolumn i hi)) column
  exact ⟨last, ⟨hwithin.ended, bracket, hsettle, .of_act hact hcomes⟩, hreached⟩

end ConfigSchema.Yaml.Lexer
