import ConfigSchema.Proofs.Outcome
import ConfigSchema.Yaml.Tree.Build

/-!
# The parts of a tree

What is said about all of a tree is said about its parts. The keys of a mapping are no parts here:
they are taken by their text. Whatever text a tree is read from, its integers are words of 64 bits.

## Main definitions

- `Yaml.Tree.Within` — a tree is another one or stands in it as a value, at any depth
- `Yaml.Tree.Everywhere` — a property of a tree and of all its parts
- `Yaml.Tree.FitsWord` — an integer is a word, with a sign if it is negative
- `Yaml.IsScalar` — a tree is one that a scalar of a text can be

## Main statements

- `Yaml.isScalar_of_scalarTree` — what a scalar is read as
- `Yaml.Blueprint.fitsWord_node` — integers that are built are words
- `Yaml.Tree.fitsWord_of_ofText` — so are all integers that are read
-/

namespace ConfigSchema.Yaml

namespace Tree

/-- To show something of all trees, show it of a tree whose values below have it. -/
@[elab_as_elim]
theorem induction {motive : Tree → Prop} (null : motive .null)
    (bool : ∀ flag, motive (.bool flag)) (int : ∀ number, motive (.int number))
    (float : ∀ number, motive (.float number)) (str : ∀ text, motive (.str text))
    (seq : ∀ items, (∀ item ∈ items, motive item) → motive (.seq items))
    (map : ∀ entries : List (Tree × Tree), (∀ entry ∈ entries, motive entry.2) →
      motive (.map entries))
    (tagged : ∀ name content, motive content → motive (.tagged name content)) (tree : Tree) :
    motive tree :=
  @Tree.rec motive (fun items => ∀ item ∈ items, motive item)
    (fun entries => ∀ entry ∈ entries, motive entry.2) (fun entry => motive entry.2)
    null bool int float str seq map tagged
    (by simp) (fun _ _ hitem hrest => List.forall_mem_cons.mpr ⟨hitem, hrest⟩)
    (by simp) (fun _ _ hentry hrest => List.forall_mem_cons.mpr ⟨hentry, hrest⟩)
    (fun _ _ _ hvalue => hvalue) tree

/-- A tree is the other one, or stands in it as a value at any depth. -/
inductive Within (part : Tree) : Tree → Prop
  | self : Within part part
  | item {items : List Tree} {item : Tree} (hitem : item ∈ items) (h : Within part item) :
      Within part (.seq items)
  | value {entries : List (Tree × Tree)} {key value : Tree} (hentry : (key, value) ∈ entries)
      (h : Within part value) : Within part (.map entries)
  | content {name : String} {content : Tree} (h : Within part content) :
      Within part (.tagged name content)

/-- The tree and all its parts have a property. -/
def Everywhere (P : Tree → Prop) (tree : Tree) : Prop := ∀ part, part.Within tree → P part

namespace Everywhere

variable {P Q : Tree → Prop} {tree : Tree}

theorem self (h : tree.Everywhere P) : P tree := h tree .self

theorem and_iff : tree.Everywhere (fun part => P part ∧ Q part) ↔
    tree.Everywhere P ∧ tree.Everywhere Q :=
  ⟨fun h => ⟨fun part hpart => (h part hpart).1, fun part hpart => (h part hpart).2⟩,
    fun h part hpart => ⟨h.1 part hpart, h.2 part hpart⟩⟩

theorem seq_iff {items : List Tree} : (Tree.seq items).Everywhere P ↔
    P (.seq items) ∧ ∀ item ∈ items, item.Everywhere P := by
  constructor
  · exact fun h => ⟨h.self, fun item hitem part hpart => h part (.item hitem hpart)⟩
  · rintro ⟨hself, hitems⟩ part hpart
    cases hpart with
    | self => exact hself
    | item hitem hwithin => exact hitems _ hitem part hwithin

theorem map_iff {entries : List (Tree × Tree)} : (Tree.map entries).Everywhere P ↔
    P (.map entries) ∧ ∀ entry ∈ entries, entry.2.Everywhere P := by
  constructor
  · exact fun h => ⟨h.self, fun entry hentry part hpart => h part (.value hentry hpart)⟩
  · rintro ⟨hself, hentries⟩ part hpart
    cases hpart with
    | self => exact hself
    | value hentry hwithin => exact hentries _ hentry part hwithin

theorem tagged_iff {name : String} {content : Tree} : (Tree.tagged name content).Everywhere P ↔
    P (.tagged name content) ∧ content.Everywhere P := by
  constructor
  · exact fun h => ⟨h.self, fun part hpart => h part (.content hpart)⟩
  · rintro ⟨hself, hcontent⟩ part hpart
    cases hpart with
    | self => exact hself
    | content hwithin => exact hcontent part hwithin

/-- A scalar has no parts but itself. -/
theorem scalar_iff (hseq : ∀ items, tree ≠ .seq items) (hmap : ∀ entries, tree ≠ .map entries)
    (htagged : ∀ name content, tree ≠ .tagged name content) : tree.Everywhere P ↔ P tree := by
  refine ⟨self, fun hself part hpart => ?_⟩
  cases hpart with
  | self => exact hself
  | item => exact absurd rfl (hseq _)
  | value => exact absurd rfl (hmap _)
  | content => exact absurd rfl (htagged _ _)

end Everywhere

/-! ## Integers -/

/-- The tree, if it is an integer, is a word of 64 bits, with a sign if it is negative. -/
def FitsWord : Tree → Prop
  | .int number => Int64.minValue.toInt ≤ number ∧ number < UInt64.size
  | _ => True

end Tree

theorem bounds_of_word {number : Int} (h : IntRange.of number = .word) :
    Int64.minValue.toInt ≤ number ∧ number < UInt64.size := by
  rw [IntRange.of] at h
  dsimp only at h
  split at h
  · rename_i hfits
    simpa [UInt64.size] using hfits
  · split at h <;> cases h

/-- What a scalar of a text can be: null, a bool, a word, a float, or the text as it stands. -/
inductive IsScalar (text : String) : Tree → Prop
  | null : IsScalar text .null
  | bool (flag : Bool) : IsScalar text (.bool flag)
  | int {number : Int} (h : IntRange.of number = .word) : IsScalar text (.int number)
  | float (number : Float) : IsScalar text (.float number)
  | str : IsScalar text (.str text)

theorem isScalar_of_resolvePlain {text : String} {tree : Tree}
    (h : resolvePlain text = some tree) : IsScalar text tree := by
  rw [resolvePlain] at h
  dsimp only at h
  -- a text that is neither padded with zeros nor a float is what is left
  generalize hotherwise : (if isZeroPadded text.toList then Tree.str text else _) = otherwise at h
  have hscalar : IsScalar text otherwise := by
    subst hotherwise
    split
    · exact .str
    split
    · exact .float _
    · exact .str
  split at h
  · exact Option.some.inj h ▸ .null
  split at h
  · exact Option.some.inj h ▸ .bool _
  split at h
  · exact Option.some.inj h ▸ hscalar
  split at h
  · rename_i hword
    exact Option.some.inj h ▸ .int hword
  · cases h
  · exact Option.some.inj h ▸ hscalar

theorem isScalar_of_resolveTagged {type : CoreType} {text : String} {tree : Tree}
    (h : resolveTagged type text = some tree) : IsScalar text tree := by
  cases type with
  | null =>
    rw [resolveTagged] at h
    split at h
    · exact Option.some.inj h ▸ .null
    · cases h
  | bool =>
    obtain ⟨flag, -, rfl⟩ := Option.map_eq_some_iff.mp h
    exact .bool flag
  | int =>
    rw [resolveTagged] at h
    split at h
    · split at h
      · rename_i hword
        exact Option.some.inj h ▸ .int (by simpa using hword)
      · cases h
    · cases h
  | float =>
    obtain ⟨number, -, rfl⟩ := Option.map_eq_some_iff.mp h
    exact .float number

theorem isScalar_of_scalarTree {mark : Mark} {tag : Option Octets} {text : String} {plain : Bool}
    {tree : Tree} (h : scalarTree mark tag text plain = .ok tree) : IsScalar text tree := by
  rw [scalarTree] at h
  split at h
  · rename_i type _
    cases hresolve : resolveTagged type text with
    | none =>
      rw [hresolve] at h
      cases h
    | some found =>
      rw [hresolve] at h
      exact Except.ok.inj h ▸ isScalar_of_resolveTagged hresolve
  · split at h
    · cases hresolve : resolvePlain text with
      | none =>
        rw [hresolve] at h
        cases h
      | some found =>
        rw [hresolve] at h
        exact Except.ok.inj h ▸ isScalar_of_resolvePlain hresolve
    · exact Except.ok.inj h ▸ .str

/-- A scalar that is an integer is a word. -/
theorem IsScalar.fitsWord {text : String} {tree : Tree} (h : IsScalar text tree) :
    tree.Everywhere Tree.FitsWord := by
  cases h with
  | int hword =>
    exact (Tree.Everywhere.scalar_iff (by simp) (by simp) (by simp)).mpr (bounds_of_word hword)
  | _ => simp [Tree.Everywhere.scalar_iff, Tree.FitsWord]

/-- A name around a tree makes no difference to the integers in it. -/
theorem fitsWord_wrapTag {name? : Option String} {content : Tree}
    (h : content.Everywhere Tree.FitsWord) :
    (wrapTag name? content).Everywhere Tree.FitsWord := by
  cases name? with
  | none => exact h
  | some name => exact Tree.Everywhere.tagged_iff.mpr ⟨trivial, h⟩

namespace Blueprint

variable {plan : Blueprint}

mutual

/-- Integers that are built are words. -/
theorem fitsWord_node {fuel depth jumps : Nat} {events : List LinkedEvent} {built : Built Tree}
    (h : plan.node fuel depth jumps events = .ok built) : built.1.Everywhere Tree.FitsWord := by
  match fuel, events with
  | 0, _ => cases h
  | _ + 1, [] => cases h
  | fuel + 1, ⟨.alias number, mark⟩ :: rest =>
    rw [node.eq_def] at h
    dsimp only at h
    split at h
    · cases h
    · obtain ⟨target, htarget, hok⟩ := Outcome.bind_eq_ok.mp h
      rw [← Outcome.pure_eq_ok.mp hok]
      exact (fitsWord_node htarget :)
  | fuel + 1, ⟨.scalar labels text plain, mark⟩ :: rest =>
    rw [node.eq_def] at h
    obtain ⟨tree, htree, hok⟩ := Outcome.bind_eq_ok.mp h
    rw [← Outcome.pure_eq_ok.mp hok]
    exact fitsWord_wrapTag (isScalar_of_scalarTree htree).fitsWord
  | fuel + 1, ⟨.sequenceStart labels, mark⟩ :: rest =>
    rw [node.eq_def] at h
    cases depth with
    | zero => cases h
    | succ depth =>
      obtain ⟨inner, hinner, hok⟩ := Outcome.bind_eq_ok.mp h
      rw [← Outcome.pure_eq_ok.mp hok]
      have hitems := fitsWord_items (by simp) hinner
      exact fitsWord_wrapTag (Tree.Everywhere.seq_iff.mpr ⟨trivial, hitems⟩)
  | fuel + 1, ⟨.mappingStart labels, mark⟩ :: rest =>
    rw [node.eq_def] at h
    cases depth with
    | zero => cases h
    | succ depth =>
      obtain ⟨inner, hinner, hok⟩ := Outcome.bind_eq_ok.mp h
      rw [← Outcome.pure_eq_ok.mp hok]
      have hentries := fitsWord_entries (by simp) hinner
      exact fitsWord_wrapTag (Tree.Everywhere.map_iff.mpr ⟨trivial, hentries⟩)
  | _ + 1, ⟨.sequenceEnd, _⟩ :: _ => cases h
  | _ + 1, ⟨.mappingEnd, _⟩ :: _ => cases h
termination_by structural fuel

theorem fitsWord_items {fuel depth jumps : Nat} {done : List Tree} {events : List LinkedEvent}
    {built : Built (List Tree)}
    (hdone : ∀ item ∈ done, item.Everywhere Tree.FitsWord)
    (h : plan.items fuel depth done jumps events = .ok built) :
    ∀ item ∈ built.1, item.Everywhere Tree.FitsWord := by
  match fuel with
  | 0 => cases h
  | fuel + 1 =>
    rw [items.eq_def] at h
    dsimp only at h
    split at h
    · cases h
    · cases h
    · rw [← Except.ok.inj h]
      simpa using hdone
    · rename_i hfuel _ _
      obtain rfl := Nat.succ.inj hfuel
      obtain ⟨item, hitem, hrest⟩ := Outcome.bind_eq_ok.mp h
      exact fitsWord_items (List.forall_mem_cons.mpr ⟨fitsWord_node hitem, hdone⟩) hrest
termination_by structural fuel

theorem fitsWord_entries {fuel depth jumps : Nat} {mark : Mark} {done : List (Tree × Tree)}
    {events : List LinkedEvent} {built : Built (List (Tree × Tree))}
    (hdone : ∀ entry ∈ done, entry.2.Everywhere Tree.FitsWord)
    (h : plan.entries fuel depth mark done jumps events = .ok built) :
    ∀ entry ∈ built.1, entry.2.Everywhere Tree.FitsWord := by
  match fuel with
  | 0 => cases h
  | fuel + 1 =>
    rw [entries.eq_def] at h
    dsimp only at h
    split at h
    · cases h
    · cases h
    · rw [← Except.ok.inj h]
      simpa using hdone
    · rename_i hfuel _ _
      obtain rfl := Nat.succ.inj hfuel
      obtain ⟨key, -, h⟩ := Outcome.bind_eq_ok.mp h
      split at h
      · cases h
      obtain ⟨value, hvalue, hrest⟩ := Outcome.bind_eq_ok.mp h
      exact fitsWord_entries (List.forall_mem_cons.mpr ⟨fitsWord_node hvalue, hdone⟩) hrest
termination_by structural fuel

end

end Blueprint

/-- All integers of linked events are words. -/
theorem Tree.fitsWord_of_ofEvents {linked : LinkedEvents} {tree : Tree}
    (h : ofEvents? linked = .ok tree) : tree.Everywhere FitsWord := by
  rw [ofEvents?] at h
  dsimp only at h
  split at h
  · rw [← Except.ok.inj h]
    simp [Everywhere.scalar_iff, FitsWord]
  · obtain ⟨built, hbuilt, hok⟩ := Outcome.bind_eq_ok.mp h
    rw [← Outcome.pure_eq_ok.mp hok]
    exact Blueprint.fitsWord_node hbuilt

/-- The tree of a text is that of its linked events. What follows the tree can only refuse it. -/
theorem Tree.exists_source_of_ofText {text : String} {tree : Tree} (h : ofText? text = .ok tree) :
    ∃ source, Source.ofString? text = .ok source ∧
      ofEvents? (DocumentEvents.ofTokens (tokenize source).1 (tokenize source).2).link =
        .ok tree := by
  rw [ofText?] at h
  obtain ⟨source, hsource, h⟩ := Outcome.bind_eq_ok.mp h
  refine ⟨source, hsource, ?_⟩
  generalize tokenize source = scanned at h ⊢
  obtain ⟨tokens, fault⟩ := scanned
  obtain ⟨found, hfound, h⟩ := Outcome.bind_eq_ok.mp h
  split at h
  · cases h
  split at h
  · cases h
  · rw [← Outcome.pure_eq_ok.mp h]
    exact hfound

/-- All integers of a text are words. -/
theorem Tree.fitsWord_of_ofText {text : String} {tree : Tree} (h : ofText? text = .ok tree) :
    tree.Everywhere FitsWord := by
  obtain ⟨_, -, htree⟩ := exists_source_of_ofText h
  exact fitsWord_of_ofEvents htree

end ConfigSchema.Yaml
