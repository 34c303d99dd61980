import ConfigSchema.Text.Wrap
import Mathlib.Data.List.Basic

/-!
# Greedy word wrapping

A wrapped text is its words, cut into lines. No line is wider than it may be, unless it is a single
word, and every line but the last is full: the first word of the next line would not have fit on it.
There is only one such cut.

## Main definitions

- `Text.Greedy` — a cut of words into lines that are full and not too wide
- `Text.IsSpaced` — one or more words with single spaces between them, and no other white space

## Main statements

- `Text.words_eq` — words are what stands between white space and is not empty
- `Text.Greedy.eq_of_flatten` — there is only one greedy cut of given words
- `Text.wrap_greedy` — wrapping a text cuts its words greedily
- `Text.isSpaced_of_mem_wrap` — what every line looks like
-/

namespace ConfigSchema.Text

/-! ## Words -/

/-- Words are what stands between white space and is not empty. -/
theorem splitWords_eq (current cs : List Char) :
    splitWords current cs = (cs.splitOnPPrepend isWhite current).filter (· ≠ []) := by
  induction cs generalizing current with
  | nil =>
    rw [splitWords, List.splitOnPPrepend_nil]
    cases current <;> simp
  | cons c cs ih =>
    rw [splitWords, List.splitOnPPrepend_cons_eq_if]
    split
    · rw [← List.splitOnPPrepend_nil_right, List.filter_cons, ← ih []]
      cases current <;> simp
    · exact ih (c :: current)

theorem words_eq (text : String) :
    words text = ((text.toList.splitOnP isWhite).filter (· ≠ [])).map .ofList := by
  rw [words, splitWords_eq, List.splitOnPPrepend_nil_right]

/-- A word is not empty and holds no white space. -/
theorem of_mem_splitWords {current cs word : List Char}
    (hcurrent : ∀ c ∈ current, isWhite c = false) (h : word ∈ splitWords current cs) :
    word ≠ [] ∧ ∀ c ∈ word, isWhite c = false := by
  induction cs generalizing current with
  | nil =>
    rw [splitWords] at h
    split at h
    · cases h
    · rename_i hbegun
      obtain rfl := List.mem_singleton.mp h
      exact ⟨by simpa using hbegun, by simpa using hcurrent⟩
  | cons c cs ih =>
    rw [splitWords] at h
    split at h
    · split at h
      · exact ih (by simp) h
      · rename_i hbegun
        rcases List.mem_cons.mp h with rfl | hrest
        · exact ⟨by simpa using hbegun, by simpa using hcurrent⟩
        · exact ih (by simp) hrest
    · rename_i hblack
      refine ih (fun d hd => ?_) h
      rcases List.mem_cons.mp hd with rfl | hd
      · simpa using hblack
      · exact hcurrent d hd

theorem of_mem_words {text word : String} (h : word ∈ words text) :
    word ≠ "" ∧ ∀ c ∈ word.toList, isWhite c = false := by
  obtain ⟨chars, hchars, rfl⟩ := List.mem_map.mp h
  obtain ⟨hne, hblack⟩ := of_mem_splitWords (by simp) hchars
  exact ⟨by simpa [← String.toList_inj] using hne, by simpa using hblack⟩

/-- All characters but white space are in words, in their order. -/
theorem flatten_splitWords (current cs : List Char) :
    (splitWords current cs).flatten = current.reverse ++ cs.filter (!isWhite ·) := by
  induction cs generalizing current with
  | nil => cases current <;> simp [splitWords]
  | cons c cs ih =>
    rw [splitWords]
    split
    · rename_i hwhite
      cases current <;> simp [ih, hwhite]
    · rename_i hblack
      simp [ih, hblack]

/-- A text has words if there is a character that is not white space. -/
theorem words_ne_nil {text : String} {c : Char} (hc : c ∈ text.toList)
    (hblack : isWhite c = false) : words text ≠ [] := by
  intro h
  have hflatten := flatten_splitWords [] text.toList
  rw [List.map_eq_nil_iff.mp h] at hflatten
  have hmem : c ∈ text.toList.filter (!isWhite ·) := List.mem_filter.mpr ⟨hc, by simp [hblack]⟩
  rw [List.reverse_nil, List.nil_append, List.flatten_nil] at hflatten
  rw [← hflatten] at hmem
  cases hmem

/-! ## Cuts of words -/

/-- Words in lines, each of which holds a word. Only a single word may be wider than `width`, and
the first word of the next line would have made a line too wide. -/
structure Greedy (width : Nat) (cut : List (List String)) : Prop where
  filled : ∀ line ∈ cut, line ≠ []
  fits : ∀ line ∈ cut, width < (" ".intercalate line).length → line.length = 1
  full : cut.IsChain fun line next =>
    ∀ word ∈ next.head?, width < (" ".intercalate line).length + 1 + word.length

/-- Words behind other words in a line follow a space. -/
theorem length_intercalate_append {line more : List String} (hline : line ≠ [])
    (hmore : more ≠ []) :
    (" ".intercalate (line ++ more)).length =
      (" ".intercalate line).length + 1 + (" ".intercalate more).length := by
  rw [String.intercalate_append_of_ne_nil hline hmore, String.length_append, String.length_append]
  rfl

/-- A line is as wide as its first word at least. -/
theorem length_le_intercalate (word : String) (more : List String) :
    word.length ≤ (" ".intercalate (word :: more)).length := by
  cases more with
  | nil => simp
  | cons next rest =>
    rw [String.intercalate_cons_cons, String.length_append, String.length_append]
    omega

/-- A character of a line is a space or stands in a word. -/
theorem eq_space_or_of_mem_intercalate {words : List String} {c : Char}
    (h : c ∈ (" ".intercalate words).toList) : c = ' ' ∨ ∃ word ∈ words, c ∈ word.toList := by
  induction words with
  | nil => cases h
  | cons word rest ih =>
    cases rest with
    | nil => exact .inr ⟨word, List.mem_cons_self, by simpa using h⟩
    | cons next more =>
      rw [String.intercalate_cons_cons, String.toList_append, String.toList_append,
        List.mem_append, List.mem_append] at h
      rcases h with (hword | hspace) | hrest
      · exact .inr ⟨word, List.mem_cons_self, hword⟩
      · exact .inl (by simpa using hspace)
      · exact (ih hrest).imp_right fun ⟨other, hother, hmem⟩ =>
          ⟨other, List.mem_cons_of_mem _ hother, hmem⟩

/-- Lines put together with spaces are their words put together with spaces. -/
theorem intercalate_map_intercalate {cut : List (List String)} (h : ∀ line ∈ cut, line ≠ []) :
    " ".intercalate (cut.map (" ".intercalate ·)) = " ".intercalate cut.flatten := by
  induction cut with
  | nil => rfl
  | cons line rest ih =>
    have hrest := ih fun other hother => h other (List.mem_cons_of_mem _ hother)
    cases rest with
    | nil => simp
    | cons next more =>
      have hnext : (next :: more).flatten ≠ [] := by simp [h next (by simp)]
      rw [List.map_cons, String.intercalate_cons_of_ne_nil (by simp), hrest,
        ← String.intercalate_append_of_ne_nil (h line List.mem_cons_self) hnext]
      rfl

namespace Greedy

variable {width : Nat}

/-- A line can be put in front of others if it is full. -/
theorem cons {line next : List String} {rest : List (List String)} (hline : line ≠ [])
    (hfits : width < (" ".intercalate line).length → line.length = 1)
    (hfull : ∀ word ∈ next.head?, width < (" ".intercalate line).length + 1 + word.length)
    (h : Greedy width (next :: rest)) : Greedy width (line :: next :: rest) where
  filled := List.forall_mem_cons.mpr ⟨hline, h.filled⟩
  fits := List.forall_mem_cons.mpr ⟨hfits, h.fits⟩
  full := List.isChain_cons_cons.mpr ⟨hfull, h.full⟩

theorem tail {line : List String} {rest : List (List String)} (h : Greedy width (line :: rest)) :
    Greedy width rest where
  filled := (List.forall_mem_cons.mp h.filled).2
  fits := (List.forall_mem_cons.mp h.fits).2
  full := h.full.of_cons

/-- No other line starts with a full line and goes on with the words behind it: it would be too
wide. -/
theorem eq_nil_of_append {line extra more : List String} {rest : List (List String)}
    (h : Greedy width (line :: rest))
    (hfits : width < (" ".intercalate (line ++ extra)).length → (line ++ extra).length = 1)
    (hrest : rest.flatten = extra ++ more) : extra = [] := by
  by_contra hextra
  have hline : line ≠ [] := h.filled line List.mem_cons_self
  obtain ⟨word, words, rfl⟩ := List.exists_cons_of_ne_nil hextra
  have hfull : width < (" ".intercalate line).length + 1 + word.length := by
    cases rest with
    | nil => simp at hrest
    | cons next others =>
      obtain ⟨first, tail, rfl⟩ := List.exists_cons_of_ne_nil (h.filled next (by simp))
      obtain rfl : first = word := (List.cons.inj hrest).1
      exact (List.isChain_cons_cons.mp h.full).1 first rfl
  have hwide : width < (" ".intercalate (line ++ word :: words)).length := by
    have hword := length_le_intercalate word words
    rw [length_intercalate_append hline hextra]
    omega
  have hsingle := hfits hwide
  have hlength := List.length_pos_of_ne_nil hline
  rw [List.length_append, List.length_cons] at hsingle
  omega

/-- There is only one greedy cut of given words. -/
theorem eq_of_flatten {cut other : List (List String)} (h : Greedy width cut)
    (hother : Greedy width other) (heq : cut.flatten = other.flatten) : cut = other := by
  induction cut generalizing other with
  | nil =>
    cases other with
    | nil => rfl
    | cons line rest => simp [hother.filled line] at heq
  | cons line rest ih =>
    cases other with
    | nil => simp [h.filled line] at heq
    | cons line' rest' =>
      rw [List.flatten_cons, List.flatten_cons] at heq
      -- one of the two first lines starts with the other
      have hlines : line = line' := by
        rcases List.append_eq_append_iff.mp heq with ⟨extra, rfl, hrest⟩ | ⟨extra, rfl, hrest⟩
        · rw [h.eq_nil_of_append (hother.fits _ List.mem_cons_self) hrest, List.append_nil]
        · rw [hother.eq_nil_of_append (h.fits _ List.mem_cons_self) hrest, List.append_nil]
      subst hlines
      rw [ih h.tail hother.tail (List.append_cancel_left heq)]

end Greedy

/-! ## Wrapping -/

/-- A line that has begun goes on with the words that fit, and the others follow on further
lines. -/
theorem exists_fill {width : Nat} {begun rest : List String} (hbegun : " ".intercalate begun ≠ "")
    (hfits : width < (" ".intercalate begun).length → begun.length = 1)
    (hrest : ∀ word ∈ rest, word ≠ "") :
    ∃ line cut, fill width (" ".intercalate begun) rest =
        (line :: cut).map (" ".intercalate ·) ∧
      (line :: cut).flatten = begun ++ rest ∧ begun <+: line ∧ Greedy width (line :: cut) := by
  have hline : begun ≠ [] := by
    rintro rfl
    exact hbegun rfl
  have hopen : (" ".intercalate begun).isEmpty = false := by simpa using hbegun
  induction rest generalizing begun with
  | nil =>
    refine ⟨begun, [], ?_, by simp, List.prefix_refl _, ?_⟩
    · rw [fill, hopen]
      rfl
    · exact ⟨by simpa using hline, by simpa using hfits, .singleton _⟩
  | cons word rest ih =>
    obtain ⟨hword, hrest⟩ := List.forall_mem_cons.mp hrest
    rw [fill, hopen, if_neg Bool.false_ne_true]
    split
    · rename_i hwidth
      have hlonger : " ".intercalate (begun ++ [word]) = " ".intercalate begun ++ " " ++ word := by
        rw [String.intercalate_append_of_ne_nil hline (by simp), String.intercalate_singleton]
      have hsize : (" ".intercalate (begun ++ [word])).length ≤ width := by
        rw [length_intercalate_append hline (by simp), String.intercalate_singleton]
        exact hwidth
      have hnonempty : " ".intercalate (begun ++ [word]) ≠ "" := by
        rw [hlonger]
        simp [hword]
      obtain ⟨line, cut, hfill, hflatten, hprefix, hgreedy⟩ :=
        ih hnonempty (fun hwide => absurd hsize (Nat.not_le_of_lt hwide)) hrest (by simp)
          (by simpa using hnonempty)
      refine ⟨line, cut, ?_, by simpa using hflatten, ?_, hgreedy⟩
      · rw [← hlonger, hfill]
      · exact (List.prefix_append _ _).trans hprefix
    · rename_i hwidth
      have hsingle : " ".intercalate [word] ≠ "" := by simpa using hword
      obtain ⟨line, cut, hfill, hflatten, ⟨tail, rfl⟩, hgreedy⟩ :=
        ih hsingle (by simp) hrest (by simp) (by simpa using hsingle)
      refine ⟨begun, _, ?_, by simpa using hflatten, List.prefix_refl _,
        hgreedy.cons hline hfits ?_⟩
      · rw [List.map_cons, ← hfill, String.intercalate_singleton]
      · rintro first ⟨⟩
        exact Nat.lt_of_not_le hwidth

/-- The lines of a text are a greedy cut of its words. -/
theorem exists_wrap (text : String) (width : Nat) :
    ∃ cut : List (List String), wrap text width = cut.map (" ".intercalate ·) ∧
      cut.flatten = words text ∧ Greedy (max width 1) cut := by
  have hwords : ∀ word ∈ words text, word ≠ "" := fun word hword => (of_mem_words hword).1
  rw [wrap]
  cases h : words text with
  | nil => exact ⟨[], rfl, rfl, by simp, by simp, .nil⟩
  | cons word rest =>
    rw [h] at hwords
    obtain ⟨hword, hrest⟩ := List.forall_mem_cons.mp hwords
    have hsingle : " ".intercalate [word] ≠ "" := by simpa using hword
    obtain ⟨line, cut, hfill, hflatten, -, hgreedy⟩ :=
      exists_fill hsingle (fun _ : max width 1 < (" ".intercalate [word]).length => rfl) hrest
    refine ⟨line :: cut, ?_, hflatten, hgreedy⟩
    rw [← hfill, String.intercalate_singleton, fill]
    rfl

/-- Wrapping a text loses and splits no word, and sets each word on the current line as long as it
fits. Only a single word may be wider than the width, and a width of zero counts as one. No other
lines have these properties. -/
theorem wrap_greedy (text : String) (width : Nat) :
    words text = ((text.toList.splitOnP isWhite).filter (· ≠ [])).map .ofList ∧
      " ".intercalate (wrap text width) = " ".intercalate (words text) ∧
      ∃ cut : List (List String), wrap text width = cut.map (" ".intercalate ·) ∧
        cut.flatten = words text ∧ Greedy (max width 1) cut ∧
        ∀ other : List (List String), other.flatten = words text → Greedy (max width 1) other →
          other = cut := by
  obtain ⟨cut, hwrap, hflatten, hgreedy⟩ := exists_wrap text width
  refine ⟨words_eq text, ?_, cut, hwrap, hflatten, hgreedy, fun other hother hgreedy' => ?_⟩
  · rw [hwrap, intercalate_map_intercalate hgreedy.filled, hflatten]
  · exact hgreedy'.eq_of_flatten hgreedy (hother.trans hflatten.symm)

example : wrap " alpha beta\tgamma  delta" 11 = ["alpha beta", "gamma delta"] := by
  decide +kernel

/-! ## What lines look like -/

/-- One or more words with single spaces between them, and no other white space. -/
def IsSpaced (line : String) : Prop :=
  ∃ words : List String, words ≠ [] ∧
    (∀ word ∈ words, word ≠ "" ∧ ∀ c ∈ word.toList, isWhite c = false) ∧
    line = " ".intercalate words

/-- Every line of a text is one or more of its words. -/
theorem isSpaced_of_mem_wrap {text line : String} {width : Nat} (h : line ∈ wrap text width) :
    IsSpaced line := by
  obtain ⟨cut, hwrap, hflatten, hgreedy⟩ := exists_wrap text width
  rw [hwrap] at h
  obtain ⟨words, hwords, rfl⟩ := List.mem_map.mp h
  refine ⟨words, hgreedy.filled words hwords, fun word hword => ?_, rfl⟩
  have hmem : word ∈ Text.words text := by
    rw [← hflatten]
    exact List.mem_flatten_of_mem hwords hword
  exact of_mem_words hmem

/-- A text with a character that is no white space has a line. -/
theorem wrap_ne_nil {text : String} {c : Char} (hc : c ∈ text.toList) (hblack : isWhite c = false)
    (width : Nat) : wrap text width ≠ [] := by
  obtain ⟨cut, hwrap, hflatten, -⟩ := exists_wrap text width
  intro h
  rw [hwrap, List.map_eq_nil_iff] at h
  rw [h] at hflatten
  exact words_ne_nil hc hblack hflatten.symm

namespace IsSpaced

variable {line : String}

theorem ne_empty (h : IsSpaced line) : line ≠ "" := by
  obtain ⟨words, hne, hwords, rfl⟩ := h
  obtain ⟨word, rest, rfl⟩ := List.exists_cons_of_ne_nil hne
  have hword : 0 < word.length := by
    have hnonempty := (hwords word List.mem_cons_self).1
    simpa [Nat.pos_iff_ne_zero] using hnonempty
  have hlength := length_le_intercalate word rest
  intro hempty
  rw [hempty] at hlength
  exact Nat.not_lt_of_le hlength hword

/-- The only white space in a line are spaces. -/
theorem eq_space (h : IsSpaced line) {c : Char} (hc : c ∈ line.toList) (hwhite : isWhite c) :
    c = ' ' := by
  obtain ⟨words, -, hwords, rfl⟩ := h
  rcases eq_space_or_of_mem_intercalate hc with hspace | ⟨word, hword, hmem⟩
  · exact hspace
  · rw [(hwords word hword).2 c hmem] at hwhite
    cases hwhite

end IsSpaced

/-- Lines of words are there again when a text of them is split at its line feeds. -/
theorem splitOn_newline {lines : List String} (hlines : lines ≠ [])
    (h : ∀ line ∈ lines, IsSpaced line) :
    ("\n".intercalate lines).toList.splitOn '\n' = lines.map String.toList := by
  rw [String.toList_intercalate]
  refine List.splitOn_intercalate '\n' (fun chars hchars hmem => ?_) (by simpa using hlines)
  obtain ⟨line, hline, rfl⟩ := List.mem_map.mp hchars
  exact absurd ((h line hline).eq_space hmem rfl) (by decide)

end ConfigSchema.Text
