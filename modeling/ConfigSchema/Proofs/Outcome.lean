import Mathlib.Data.List.Forall2

/-!
# Outcomes

Computations that can fail, taken apart: what a chain of steps needs to succeed, and when two
computations succeed alike, whatever they report when they fail.

## Main definitions

- `Outcome.Alike` — two computations have the same successes
- `Outcome.FailsWith` — a property of all failures of a computation
- `Outcome.Relays` — a computation fails where another does, and reports it in another way
-/

namespace ConfigSchema.Outcome

variable {ε α β : Type}

/-- A chain of two steps succeeds exactly if both steps do. -/
theorem bind_eq_ok {x : Except ε α} {f : α → Except ε β} {b : β} :
    x >>= f = .ok b ↔ ∃ a, x = .ok a ∧ f a = .ok b := by
  cases x with
  | error e => simp [bind, Except.bind]
  | ok a => simp [bind, Except.bind]

/-- A chain of two steps fails exactly if one of them does. -/
theorem bind_eq_error {x : Except ε α} {f : α → Except ε β} {e : ε} :
    x >>= f = .error e ↔ x = .error e ∨ ∃ a, x = .ok a ∧ f a = .error e := by
  cases x with
  | error d => simp [bind, Except.bind]
  | ok a => simp [bind, Except.bind]

/-- Returning a value succeeds with just this value. -/
theorem pure_eq_ok {a b : α} : (pure a : Except ε α) = .ok b ↔ a = b := by
  simp [pure, Except.pure]

/-- A list is put together from its first element, which may be known, and from the rest. -/
theorem cons_eq_ok {known : Bool} {a : α} {x : Except ε α} {f : α → β} {rest : Except ε (List β)}
    {bs : List β} :
    (do
      let a ← if known then pure a else x
      return f a :: (← rest)) = .ok bs ↔
      ∃ b more, (if known then b = a else x = .ok b) ∧ rest = .ok more ∧ bs = f b :: more := by
  cases known with
  | true =>
    simp only [if_true, bind_eq_ok, pure_eq_ok]
    constructor
    · rintro ⟨b, rfl, more, hmore, rfl⟩
      exact ⟨_, more, rfl, hmore, rfl⟩
    · rintro ⟨b, more, rfl, hmore, rfl⟩
      exact ⟨_, rfl, more, hmore, rfl⟩
  | false =>
    simp only [Bool.false_eq_true, if_false, bind_eq_ok, pure_eq_ok]
    constructor
    · rintro ⟨b, hb, more, hmore, rfl⟩
      exact ⟨b, more, hb, hmore, rfl⟩
    · rintro ⟨b, more, hb, hmore, rfl⟩
      exact ⟨b, hb, more, hmore, rfl⟩

/-- What is made of an outcome succeeds exactly if the outcome does. -/
theorem map_eq_ok {x : Except ε α} {f : α → β} {b : β} (h : x.map f = .ok b) :
    ∃ a, x = .ok a ∧ b = f a := by
  cases x with
  | error e => cases h
  | ok a => exact ⟨a, rfl, (Except.ok.inj h).symm⟩

/-- A step that has succeeded can be left out of a chain. -/
@[simp] theorem ok_bind (a : α) (f : α → Except ε β) : (Except.ok a >>= f) = f a := rfl

/-- A step that has failed ends a chain. -/
@[simp] theorem error_bind (e : ε) (f : α → Except ε β) :
    ((Except.error e : Except ε α) >>= f) = .error e := rfl

/-- A loop whose steps all keep what they start from ends with it. -/
theorem foldlM_of_fixed {f : β → α → Except ε β} {b : β} {as : List α}
    (h : ∀ a ∈ as, f b a = .ok b) : as.foldlM f b = .ok b := by
  induction as with
  | nil => rfl
  | cons a as ih =>
    rw [List.foldlM_cons, h a (by simp), ok_bind]
    exact ih fun a' ha' => h a' (by simp [ha'])

/-- Loops over elements on which their steps agree end alike. -/
theorem foldlM_congr {γ : Type} {f : β → α → Except ε β} {g : β → γ → Except ε β} {as : List α}
    {cs : List γ} (h : List.Forall₂ (fun a c => ∀ b, f b a = g b c) as cs) (b : β) :
    as.foldlM f b = cs.foldlM g b := by
  induction h generalizing b with
  | nil => rfl
  | cons hac _ ih =>
    rw [List.foldlM_cons, List.foldlM_cons, hac b]
    exact bind_congr fun b' => ih b'

/-- Traversals with positions give the same if their steps agree at every position. -/
theorem mapM_zipIdx_congr {f : α × Nat → Except ε β} {as cs : List α}
    (h : List.Forall₂ (fun a c => ∀ index, f (a, index) = f (c, index)) as cs) (start : Nat) :
    (as.zipIdx start).mapM f = (cs.zipIdx start).mapM f := by
  induction h generalizing start with
  | nil => rfl
  | cons hac _ ih =>
    rw [List.zipIdx_cons, List.zipIdx_cons, List.mapM_cons, List.mapM_cons, hac start,
      ih (start + 1)]

/-! ## Successes alike -/

/-- Two computations have the same successes. Their failures may differ. -/
def Alike (x y : Except ε α) : Prop := ∀ a, x = .ok a ↔ y = .ok a

theorem Alike.refl (x : Except ε α) : Alike x x := fun _ => Iff.rfl

/-- Failures are alike. -/
theorem Alike.error (d e : ε) : Alike (.error d : Except ε α) (.error e) := by
  intro a
  simp

/-- Chains of steps that succeed alike succeed alike. -/
theorem Alike.bind {x y : Except ε α} {f g : α → Except ε β} (h : Alike x y)
    (hfg : ∀ a, Alike (f a) (g a)) : Alike (x >>= f) (y >>= g) := by
  intro b
  simp only [bind_eq_ok]
  constructor
  · rintro ⟨a, ha, hb⟩
    exact ⟨a, (h a).mp ha, (hfg a b).mp hb⟩
  · rintro ⟨a, ha, hb⟩
    exact ⟨a, (h a).mpr ha, (hfg a b).mpr hb⟩

/-- Loops whose steps succeed alike succeed alike. -/
theorem Alike.foldlM {f g : β → α → Except ε β} (h : ∀ b a, Alike (f b a) (g b a))
    (b : β) (as : List α) : Alike (as.foldlM f b) (as.foldlM g b) := by
  induction as generalizing b with
  | nil => exact .refl _
  | cons a as ih =>
    simp only [List.foldlM_cons]
    exact (h b a).bind fun b' => ih b'

/-- Traversals whose steps succeed alike succeed alike. -/
theorem Alike.mapM {f g : α → Except ε β} {as : List α} (h : ∀ a ∈ as, Alike (f a) (g a)) :
    Alike (as.mapM f) (as.mapM g) := by
  induction as with
  | nil => exact .refl _
  | cons a as ih =>
    simp only [List.mapM_cons]
    refine (h a (by simp)).bind fun b => ?_
    exact (ih fun a' ha' => h a' (by simp [ha'])).bind fun bs => .refl _

/-! ## Failures -/

/-- If the computation fails, its failure has a property. -/
def FailsWith (P : ε → Prop) (x : Except ε α) : Prop := ∀ e, x = .error e → P e

namespace FailsWith

variable {P : ε → Prop}

theorem ok (a : α) : FailsWith P (.ok a : Except ε α) := by
  intro e h
  cases h

theorem error {e : ε} (h : P e) : FailsWith P (.error e : Except ε α) := by
  intro other hother
  cases hother
  exact h

/-- A chain fails with one of its steps. -/
theorem bind {x : Except ε α} {f : α → Except ε β} (hx : FailsWith P x)
    (hf : ∀ a, FailsWith P (f a)) : FailsWith P (x >>= f) := by
  intro e h
  rcases bind_eq_error.mp h with hfirst | ⟨a, -, hrest⟩
  · exact hx e hfirst
  · exact hf a e hrest

end FailsWith

/-! ## Failures that are reported in another way -/

/-- The second computation does what the first one does, but its failures are reported in another
way. -/
def Relays (report : ε → ε) (x y : Except ε α) : Prop := y = x.mapError report

namespace Relays

variable {report : ε → ε}

theorem ok (a : α) : Relays report (.ok a : Except ε α) (.ok a) := rfl

theorem error (e : ε) : Relays report (.error e : Except ε α) (.error (report e)) := rfl

theorem bind {x y : Except ε α} {f g : α → Except ε β} (h : Relays report x y)
    (hfg : ∀ a, x = .ok a → Relays report (f a) (g a)) : Relays report (x >>= f) (y >>= g) := by
  rw [Relays] at h
  subst h
  cases x with
  | error e => rfl
  | ok a => exact hfg a rfl

/-- A loop is relayed if each of its steps is. -/
theorem foldlM {f g : β → α → Except ε β} {as : List α}
    (h : ∀ a ∈ as, ∀ b, Relays report (f b a) (g b a)) (b : β) :
    Relays report (as.foldlM f b) (as.foldlM g b) := by
  induction as generalizing b with
  | nil => exact .ok b
  | cons a as ih =>
    rw [List.foldlM_cons, List.foldlM_cons]
    exact (h a List.mem_cons_self b).bind fun b' _ =>
      ih (fun a' ha' => h a' (List.mem_cons_of_mem _ ha')) b'

/-- A traversal is relayed if each of its steps is. -/
theorem mapM {f g : α → Except ε β} {as : List α} (h : ∀ a ∈ as, Relays report (f a) (g a)) :
    Relays report (as.mapM f) (as.mapM g) := by
  induction as with
  | nil => exact .ok []
  | cons a as ih =>
    rw [List.mapM_cons, List.mapM_cons]
    refine (h a List.mem_cons_self).bind fun b _ => ?_
    exact (ih fun a' ha' => h a' (List.mem_cons_of_mem _ ha')).bind fun bs _ => .ok _

end Relays

/-! ## Traversals and loops -/

/-- A traversal succeeds exactly if each step does, with the results in order. -/
theorem mapM_eq_ok {f : α → Except ε β} {as : List α} {bs : List β} :
    as.mapM f = .ok bs ↔ List.Forall₂ (fun a b => f a = .ok b) as bs := by
  induction as generalizing bs with
  | nil => cases bs <;> simp [pure, Except.pure]
  | cons a as ih =>
    simp only [List.mapM_cons, bind_eq_ok, pure_eq_ok]
    constructor
    · rintro ⟨b, hb, bs', hbs, rfl⟩
      exact .cons hb (ih.mp hbs)
    · intro h
      cases h with
      | cons hb hbs => exact ⟨_, hb, _, ih.mpr hbs, rfl⟩

/-- A traversal fails with one of its steps. -/
theorem exists_of_mapM_error {f : α → Except ε β} {as : List α} {e : ε}
    (h : as.mapM f = .error e) : ∃ a ∈ as, f a = .error e := by
  induction as with
  | nil => cases h
  | cons a as ih =>
    rw [List.mapM_cons] at h
    rcases bind_eq_error.mp h with hfirst | ⟨b, -, h⟩
    · exact ⟨a, List.mem_cons_self .., hfirst⟩
    · rcases bind_eq_error.mp h with hrest | ⟨bs, -, hpure⟩
      · obtain ⟨a', ha', hstep⟩ := ih hrest
        exact ⟨a', List.mem_cons_of_mem _ ha', hstep⟩
      · cases hpure

/-- A loop fails with one of its steps. -/
theorem exists_of_foldlM_error {f : β → α → Except ε β} {as : List α} {b : β} {e : ε}
    (h : as.foldlM f b = .error e) : ∃ a ∈ as, ∃ b, f b a = .error e := by
  induction as generalizing b with
  | nil => cases h
  | cons a as ih =>
    rw [List.foldlM_cons] at h
    rcases bind_eq_error.mp h with hfirst | ⟨b', -, hrest⟩
    · exact ⟨a, List.mem_cons_self .., b, hfirst⟩
    · obtain ⟨a', ha', hstep⟩ := ih hrest
      exact ⟨a', List.mem_cons_of_mem _ ha', hstep⟩

/-- In a loop that succeeds, every step has done so. -/
theorem exists_of_foldlM_eq_ok {f : β → α → Except ε β} {as : List α} {b result : β}
    (h : as.foldlM f b = .ok result) {a : α} (ha : a ∈ as) : ∃ b b', f b a = .ok b' := by
  induction as generalizing b with
  | nil => cases ha
  | cons a' as ih =>
    rw [List.foldlM_cons] at h
    obtain ⟨b', hfirst, hrest⟩ := bind_eq_ok.mp h
    rcases List.mem_cons.mp ha with rfl | hmem
    · exact ⟨b, b', hfirst⟩
    · exact ih hrest hmem

/-- What each step of a loop keeps, the loop keeps. -/
theorem foldlM_invariant {f : β → α → Except ε β} {P : β → Prop} {as : List α}
    (hstep : ∀ a ∈ as, ∀ b b', P b → f b a = .ok b' → P b') {b result : β} (hb : P b)
    (h : as.foldlM f b = .ok result) : P result := by
  induction as generalizing b with
  | nil => rwa [← Except.ok.inj h]
  | cons a as ih =>
    rw [List.foldlM_cons] at h
    obtain ⟨b', hfirst, hrest⟩ := bind_eq_ok.mp h
    exact ih (fun a' ha' => hstep a' (List.mem_cons_of_mem _ ha'))
      (hstep a List.mem_cons_self b b' hb hfirst) hrest

/-- Each result of a traversal comes from a step. -/
theorem exists_of_forall₂ {γ : Type} {R : α → γ → Prop} {as : List α} {cs : List γ}
    (h : List.Forall₂ R as cs) {c : γ} (hc : c ∈ cs) : ∃ a ∈ as, R a c := by
  induction h with
  | nil => cases hc
  | cons hac _ ih =>
    rcases List.mem_cons.mp hc with rfl | hmem
    · exact ⟨_, List.mem_cons_self .., hac⟩
    · obtain ⟨a, ha, hR⟩ := ih hmem
      exact ⟨a, List.mem_cons_of_mem _ ha, hR⟩

/-- A traversal with positions succeeds if each step does wherever it stands. -/
theorem mapM_zipIdx_of_forall₂ {f : α × Nat → Except ε β} {as : List α} {bs : List β}
    (h : List.Forall₂ (fun a b => ∀ index, f (a, index) = .ok b) as bs) (start : Nat) :
    (as.zipIdx start).mapM f = .ok bs := by
  rw [mapM_eq_ok]
  induction h generalizing start with
  | nil => exact .nil
  | cons hab _ ih => exact .cons (hab start) (ih (start + 1))

/-- If a traversal with positions succeeds, each step does at its position. -/
theorem forall₂_of_mapM_zipIdx {f : α × Nat → Except ε β} {as : List α} {bs : List β}
    {start : Nat} (h : (as.zipIdx start).mapM f = .ok bs) :
    List.Forall₂ (fun a b => ∃ index, f (a, index) = .ok b) as bs := by
  rw [mapM_eq_ok] at h
  induction as generalizing start bs with
  | nil =>
    cases h
    exact .nil
  | cons a as ih =>
    cases h with
    | cons hab hrest => exact .cons ⟨start, hab⟩ (ih hrest)

/-- Elements at the same positions are related also by what they are elements of. -/
theorem forall₂_imp_mem {γ : Type} {R S : α → γ → Prop} {as : List α} {cs : List γ}
    (h : List.Forall₂ R as cs) (himp : ∀ a ∈ as, ∀ c ∈ cs, R a c → S a c) :
    List.Forall₂ S as cs := by
  induction h with
  | nil => exact .nil
  | cons hac _ ih =>
    exact .cons (himp _ List.mem_cons_self _ List.mem_cons_self hac) (ih fun a ha c hc =>
      himp a (List.mem_cons_of_mem _ ha) c (List.mem_cons_of_mem _ hc))

/-- Where each element has a partner, the elements have partners in order. -/
theorem exists_forall₂ {γ : Type} {R : α → γ → Prop} {as : List α} (h : ∀ a ∈ as, ∃ c, R a c) :
    ∃ cs, List.Forall₂ R as cs := by
  induction as with
  | nil => exact ⟨[], .nil⟩
  | cons a as ih =>
    obtain ⟨c, hc⟩ := h a List.mem_cons_self
    obtain ⟨cs, hcs⟩ := ih fun a' ha' => h a' (List.mem_cons_of_mem _ ha')
    exact ⟨c :: cs, .cons hc hcs⟩

/-- What a filter keeps is the same if it keeps the same positions, with the same elements. -/
theorem filter_eq_of_forall₂ {p : α → Bool} {as cs : List α}
    (h : List.Forall₂ (fun a c => p a = p c ∧ (p a → a = c)) as cs) :
    as.filter p = cs.filter p := by
  induction h with
  | nil => rfl
  | @cons a c _ _ hac _ ih =>
    obtain ⟨hsame, heq⟩ := hac
    rw [List.filter_cons, List.filter_cons, ← hsame, ih]
    split
    · rw [heq ‹_›]
    · rfl

/-- A loop succeeds with the same result where each of its steps does. -/
theorem foldlM_eq_ok_of_forall₂ {γ : Type} {f : β → α → Except ε β} {g : β → γ → Except ε β}
    {as : List α} {cs : List γ}
    (h : List.Forall₂ (fun a c => ∀ b b', f b a = .ok b' → g b c = .ok b') as cs) {b result : β}
    (hf : as.foldlM f b = .ok result) : cs.foldlM g b = .ok result := by
  induction h generalizing b with
  | nil => exact hf
  | cons hac _ ih =>
    rw [List.foldlM_cons] at hf ⊢
    obtain ⟨b', hfirst, hrest⟩ := bind_eq_ok.mp hf
    exact bind_eq_ok.mpr ⟨b', hac b b' hfirst, ih hrest⟩

/-- A traversal with positions succeeds with the same results where each of its steps does. -/
theorem mapM_zipIdx_eq_ok_of_forall₂ {f : α × Nat → Except ε β} {as cs : List α} {bs : List β}
    {start : Nat}
    (h : List.Forall₂ (fun a c => ∀ index b, f (a, index) = .ok b → f (c, index) = .ok b) as cs)
    (hf : (as.zipIdx start).mapM f = .ok bs) : (cs.zipIdx start).mapM f = .ok bs := by
  induction h generalizing start bs with
  | nil => exact hf
  | cons hac _ ih =>
    rw [List.zipIdx_cons, mapM_eq_ok] at hf ⊢
    cases hf with
    | cons hfirst hrest =>
      exact .cons (hac start _ hfirst) (mapM_eq_ok.mp (ih (mapM_eq_ok.mpr hrest)))

end ConfigSchema.Outcome
