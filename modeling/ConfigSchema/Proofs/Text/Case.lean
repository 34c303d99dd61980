import ConfigSchema.Text.Case
import Mathlib

/-!
# Texts that are brought into a case

A text that has been brought into a case stays as it is when it is brought into that case again.
This is a property of the tables: what they give for characters, they do not map any further.

## Main definitions

- `Text.mappedCodes`, `Text.givenCodes` — the code points that tables map, and those that they give
- `Text.codeMask` — code points as the bits of one number, which makes the tables quick to compare

## Main statements

- `Text.mapCase_of_mem` — a character that final tables give stays as it is
- `Text.toLower_toLower`, `Text.toUpper_toUpper` — a text that is brought into a case twice
-/

namespace ConfigSchema.Text

variable {runs : List CaseRun} {expansions : List (Nat × List Nat)}

/-! ## What tables map and what they give -/

/-- The code points that the tables map. -/
def mappedCodes (runs : List CaseRun) (expansions : List (Nat × List Nat)) : List Nat :=
  runs.flatMap CaseRun.sources ++ expansions.map Prod.fst

def CaseRun.targets (run : CaseRun) : List Nat :=
  run.sources.map fun n : Nat => ((n : Int) + run.shift).toNat

/-- The code points that the tables give, and zero, which stands for all that is no character. -/
def givenCodes (runs : List CaseRun) (expansions : List (Nat × List Nat)) : List Nat :=
  0 :: runs.flatMap CaseRun.targets ++ expansions.flatMap Prod.snd

/-- The tables map no further what they give. -/
def AreFinal (runs : List CaseRun) (expansions : List (Nat × List Nat)) : Prop :=
  ∀ n ∈ givenCodes runs expansions, n ∉ mappedCodes runs expansions

/-- A run maps only its sources, all by the same distance. -/
theorem CaseRun.of_shift? {run : CaseRun} {n : Nat} {shift : Int}
    (h : run.shift? n = some shift) : n ∈ run.sources ∧ shift = run.shift := by
  rw [CaseRun.shift?, Option.ite_none_right_eq_some] at h
  obtain ⟨hcovers, hshift⟩ := h
  simp only [Bool.and_eq_true, decide_eq_true_eq, beq_iff_eq] at hcovers
  refine ⟨List.mem_range'.mpr ⟨(n - run.first) / run.step, ?_, ?_⟩, (Option.some.inj hshift).symm⟩
  · have hle : (n - run.first) / run.step ≤ (run.last - run.first) / run.step :=
      Nat.div_le_div_right (by omega)
    omega
  · have hdivides := Nat.div_add_mod (n - run.first) run.step
    omega

/-- A character that the tables do not map stays as it is. -/
theorem mapCase_of_not_mem {c : Char} (h : c.toNat ∉ mappedCodes runs expansions) :
    mapCase runs expansions c = [c] := by
  simp only [mappedCodes, List.mem_append, List.mem_flatMap, List.mem_map, not_or, not_exists,
    not_and] at h
  have hruns : runs.findSome? (·.shift? c.toNat) = none := by
    rw [List.findSome?_eq_none_iff]
    intro run hrun
    cases hshift : run.shift? c.toNat with
    | none => rfl
    | some shift => exact absurd (CaseRun.of_shift? hshift).1 (h.1 run hrun)
  have hexpansions : expansions.lookup c.toNat = none := by
    rw [List.lookup_eq_none_iff]
    intro expansion hexpansion
    rw [bne_iff_ne]
    exact fun heq => h.2 expansion hexpansion heq.symm
  rw [mapCase, hruns, hexpansions]

/-- The character of a code point that tables give has a code point that they give, also where the
number is no code point at all. -/
theorem toNat_ofNat_mem {n : Nat} (h : n ∈ givenCodes runs expansions) :
    (Char.ofNat n).toNat ∈ givenCodes runs expansions := by
  rw [Char.toNat_ofNat]
  split
  · exact h
  · exact List.mem_cons_self

/-- A character that final tables give stays as it is. -/
theorem mapCase_of_mem (hfinal : AreFinal runs expansions) {c d : Char}
    (h : d ∈ mapCase runs expansions c) : mapCase runs expansions d = [d] := by
  -- the character is given by a run, is given by an expansion, or is the one that is mapped
  cases hruns : runs.findSome? (·.shift? c.toNat) with
  | some shift =>
    rw [mapCase, hruns] at h
    obtain rfl := List.mem_singleton.mp h
    obtain ⟨run, hrun, hshift⟩ := List.exists_of_findSome?_eq_some hruns
    obtain ⟨hsource, rfl⟩ := CaseRun.of_shift? hshift
    refine mapCase_of_not_mem (hfinal _ (toNat_ofNat_mem ?_))
    have htarget : ((c.toNat : Int) + run.shift).toNat ∈ run.targets :=
      List.mem_map_of_mem hsource
    exact List.mem_append_left _
      (List.mem_cons_of_mem _ (List.mem_flatMap.mpr ⟨run, hrun, htarget⟩))
  | none =>
    cases hexpansions : expansions.lookup c.toNat with
    | some codes =>
      rw [mapCase, hruns, hexpansions] at h
      obtain ⟨n, hn, rfl⟩ := List.mem_map.mp h
      obtain ⟨source, hexpansion⟩ : ∃ source, (source, codes) ∈ expansions := by
        obtain ⟨before, after, rfl, -⟩ := List.lookup_eq_some_iff.mp hexpansions
        exact ⟨c.toNat, by simp⟩
      refine mapCase_of_not_mem (hfinal _ (toNat_ofNat_mem ?_))
      exact List.mem_append_right _ (List.mem_flatMap.mpr ⟨_, hexpansion, hn⟩)
    | none =>
      have hkept : mapCase runs expansions c = [c] := by rw [mapCase, hruns, hexpansions]
      rw [hkept] at h
      obtain rfl := List.mem_singleton.mp h
      exact hkept

/-! ## The tables of Unicode -/

def codeMask (codes : List Nat) : Nat := codes.foldl (fun mask n => mask ||| 1 <<< n) 0

theorem testBit_foldl (codes : List Nat) (mask n : Nat) :
    (codes.foldl (fun mask n => mask ||| 1 <<< n) mask).testBit n =
      (mask.testBit n || decide (n ∈ codes)) := by
  induction codes generalizing mask with
  | nil => simp
  | cons code codes ih =>
    rw [List.foldl_cons, ih, Nat.testBit_or, Nat.one_shiftLeft, Nat.testBit_two_pow]
    by_cases h : code = n
    · simp [h]
    · simp [h, Ne.symm h]

theorem testBit_codeMask (codes : List Nat) (n : Nat) :
    (codeMask codes).testBit n = decide (n ∈ codes) := by
  rw [codeMask, testBit_foldl, Nat.zero_testBit, Bool.false_or]

/-- Tables are final if no bit of what they map is given. -/
theorem areFinal_of_testBit
    (h : ((givenCodes runs expansions).all fun n =>
      !(codeMask (mappedCodes runs expansions)).testBit n) = true) : AreFinal runs expansions := by
  intro n hn
  have hbit := List.all_eq_true.mp h n hn
  simpa [testBit_codeMask] using hbit

theorem areFinal_lower : AreFinal lowerRuns lowerExpansions :=
  areFinal_of_testBit (by decide +kernel)

theorem areFinal_upper : AreFinal upperRuns upperExpansions :=
  areFinal_of_testBit (by decide +kernel)

/-! ## Texts -/

/-- The capital sigma is mapped, so that a text of characters that are not is without it. -/
theorem ne_sigma_of_lowerChar {c : Char} (h : lowerChar c = [c]) : (c == 'Σ') = false := by
  rw [beq_eq_false_iff_ne]
  rintro rfl
  exact absurd h (by decide +kernel)

theorem lowerFrom_of_lowerChar {cs : List Char} (h : ∀ c ∈ cs, lowerChar c = [c])
    (before : List Char) : lowerFrom before cs = cs := by
  induction cs generalizing before with
  | nil => rfl
  | cons c cs ih =>
    have hc := h c List.mem_cons_self
    rw [lowerFrom, ne_sigma_of_lowerChar hc, hc, ih fun d hd => h d (List.mem_cons_of_mem _ hd)]
    rfl

/-- Each character of a text in lower case is in lower case, whichever form a sigma has. -/
theorem lowerChar_of_mem_lowerFrom {cs before : List Char} {d : Char}
    (h : d ∈ lowerFrom before cs) : lowerChar d = [d] := by
  induction cs generalizing before with
  | nil => cases h
  | cons c cs ih =>
    rw [lowerFrom] at h
    rcases List.mem_append.mp h with hfirst | hrest
    · -- a capital sigma is not looked up, and has two forms in lower case
      by_cases hsigma : (c == 'Σ') = true
      · rw [if_pos hsigma] at hfirst
        obtain rfl := List.mem_singleton.mp hfirst
        split
        · decide +kernel
        · decide +kernel
      · rw [if_neg hsigma] at hfirst
        exact mapCase_of_mem areFinal_lower hfirst
    · exact ih hrest

theorem toLower_toLower (text : String) : toLower (toLower text) = toLower text := by
  have hchars : ∀ d ∈ lowerFrom [] text.toList, lowerChar d = [d] :=
    fun d hd => lowerChar_of_mem_lowerFrom hd
  rw [toLower, toLower, String.toList_ofList, lowerFrom_of_lowerChar hchars]

theorem toUpper_toUpper (text : String) : toUpper (toUpper text) = toUpper text := by
  have hchars : ∀ d ∈ text.toList.flatMap upperChar, upperChar d = [d] := by
    intro d hd
    obtain ⟨c, -, hd⟩ := List.mem_flatMap.mp hd
    exact mapCase_of_mem areFinal_upper hd
  have hkept : (text.toList.flatMap upperChar).flatMap upperChar =
      (text.toList.flatMap upperChar).flatMap fun d => [d] := List.flatMap_congr hchars
  rw [toUpper, toUpper, String.toList_ofList, hkept, List.flatMap_singleton']

end ConfigSchema.Text
