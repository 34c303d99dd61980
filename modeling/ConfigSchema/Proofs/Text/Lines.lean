import ConfigSchema.Text.Blank
import ConfigSchema.Text.Lines
import Mathlib.Data.List.DropRight

/-!
# Lines put together again

The lines of a text, joined by line feeds, give the text back, but for the carriage returns in front
of line feeds, which belong to the line ends, and for a line feed at its end.

## Main definitions

- `Text.withoutReturns` — a text without the carriage returns that belong to line ends

## Main statements

- `Text.withoutReturns_eq_iff` — nothing is taken away if and only if no carriage return stands in
  front of a line feed
- `Text.trimWhite_intercalate_lines` — lines are put together again, but for white space at the ends
- `Text.trimWhite_trimWhite` — white space at the ends is taken away at once
-/

namespace ConfigSchema.Text

/-- Characters without the carriage returns directly in front of a line feed. -/
def dropReturns : List Char → List Char
  | [] => []
  | c :: cs =>
      if c = '\r' ∧ cs.head? = some '\n' then dropReturns cs else c :: dropReturns cs

/-- A text without the carriage returns directly in front of a line feed. -/
def withoutReturns (text : String) : String := .ofList (dropReturns text.toList)

@[simp] theorem toList_withoutReturns (text : String) :
    (withoutReturns text).toList = dropReturns text.toList := by
  simp [withoutReturns]

theorem dropReturns_sublist (cs : List Char) : (dropReturns cs).Sublist cs := by
  induction cs with
  | nil => exact .slnil
  | cons c cs ih =>
    rw [dropReturns]
    split
    · exact ih.cons c
    · exact ih.cons_cons c

/-- Nothing is dropped if and only if no carriage return stands in front of a line feed. -/
theorem dropReturns_eq_iff (cs : List Char) :
    dropReturns cs = cs ↔ ¬['\r', '\n'] <:+: cs := by
  induction cs with
  | nil => simp [dropReturns]
  | cons c cs ih =>
    have hfront : ['\r', '\n'] <+: c :: cs ↔ c = '\r' ∧ cs.head? = some '\n' := by
      cases cs with
      | nil => simp
      | cons d cs => simp [eq_comm]
    rw [dropReturns, List.infix_cons_iff, hfront]
    split
    · rename_i hreturn
      refine iff_of_false (fun heq => ?_) (by simp [hreturn])
      -- one character is gone, so the lengths differ
      have hlength := (dropReturns_sublist cs).length_le
      rw [heq] at hlength
      exact Nat.not_succ_le_self _ hlength
    · rename_i hkeep
      simp [ih, hkeep]

theorem withoutReturns_eq_iff (text : String) :
    withoutReturns text = text ↔ ¬['\r', '\n'] <:+: text.toList := by
  rw [← String.toList_inj, toList_withoutReturns, dropReturns_eq_iff]

/-- A line feed at the end stays there. -/
theorem exists_dropReturns_concat (cs : List Char) :
    ∃ rest, dropReturns (cs ++ ['\n']) = rest ++ ['\n'] := by
  induction cs with
  | nil => exact ⟨[], by simp [dropReturns]⟩
  | cons c cs ih =>
    obtain ⟨rest, hrest⟩ := ih
    rw [List.cons_append, dropReturns, hrest]
    split
    · exact ⟨rest, rfl⟩
    · exact ⟨c :: rest, rfl⟩

/-! ## The lines of a text -/

theorem dropReturn_cons (c : Char) (current : List Char) :
    dropReturn (c :: current) = if c = '\r' then current else c :: current := by
  split
  · rename_i hc
    rw [hc, dropReturn]
  · rename_i hc
    rw [dropReturn]
    exact fun cs heq => hc (List.cons.inj heq).1

/-- A line loses at most the carriage return at its end, and that only in front of a line feed. -/
theorem dropReturns_line {current : List Char} (h : '\n' ∉ current) (cs : List Char) :
    dropReturns (current.reverse ++ cs) =
      (if cs.head? = some '\n' then dropReturn current else current).reverse ++ dropReturns cs := by
  induction current generalizing cs with
  | nil => simp [dropReturn]
  | cons c current ih =>
    obtain ⟨hc, hcurrent⟩ := not_or.mp (mt List.mem_cons.mpr h)
    have hnext : (c :: cs).head? ≠ some '\n' := by simpa [eq_comm] using hc
    rw [List.reverse_cons, List.append_assoc, List.singleton_append, ih hcurrent, if_neg hnext,
      dropReturns, dropReturn_cons]
    split_ifs <;> simp_all

/-- Lines joined by line feeds, and one more line feed, are lines that end with line feeds. -/
theorem intercalate_append_newline {lines : List (List Char)} (h : lines ≠ []) :
    ['\n'].intercalate lines ++ ['\n'] = lines.flatMap (· ++ ['\n']) := by
  induction lines with
  | nil => exact absurd rfl h
  | cons line rest ih =>
    by_cases hrest : rest = []
    · simp [hrest]
    · rw [List.intercalate_cons_of_ne_nil hrest, List.flatMap_cons, ← ih hrest]
      simp

/-- The lines of characters, each with a line feed at its end, are the characters without the
carriage returns of their line ends, and a line feed if the last line has none. -/
theorem flatMap_splitLines {current : List Char} (h : '\n' ∉ current) (cs : List Char) :
    ∃ tail, (tail = [] ∨ tail = ['\n']) ∧
      (splitLines current cs).flatMap (· ++ ['\n']) =
        dropReturns (current.reverse ++ cs) ++ tail := by
  induction cs generalizing current with
  | nil =>
    cases current with
    | nil => exact ⟨[], .inl rfl, rfl⟩
    | cons c before =>
      refine ⟨['\n'], .inr rfl, ?_⟩
      rw [dropReturns_line h]
      simp [splitLines, dropReturns]
  | cons c cs ih =>
    by_cases hc : c = '\n'
    · subst hc
      obtain ⟨tail, htail, hrest⟩ := ih List.not_mem_nil
      refine ⟨tail, htail, ?_⟩
      rw [splitLines, if_pos (by simp), List.flatMap_cons, hrest, dropReturns_line h]
      simp [dropReturns]
    · have hcurrent : '\n' ∉ c :: current := by simp [h, eq_comm, hc]
      obtain ⟨tail, htail, hrest⟩ := ih hcurrent
      refine ⟨tail, htail, ?_⟩
      rw [splitLines, if_neg (by simpa using hc), hrest]
      simp

/-! ## White space at the ends -/

theorem trimChars_eq (cs : List Char) : trimChars cs = (cs.dropWhile isWhite).rdropWhile isWhite :=
  rfl

/-- White space at the ends is taken away at once. -/
theorem trimChars_trimChars (cs : List Char) : trimChars (trimChars cs) = trimChars cs := by
  have hfront : (trimChars cs).dropWhile isWhite = trimChars cs := by
    have hprefix : trimChars cs <+: cs.dropWhile isWhite := List.rdropWhile_prefix _ _
    have hhead := List.head?_dropWhile_not isWhite cs
    cases htrim : trimChars cs with
    | nil => rfl
    | cons c rest =>
      obtain ⟨tail, htail⟩ := htrim ▸ hprefix
      rw [← htail] at hhead
      have hc : isWhite c = false := by simpa using hhead
      rw [List.dropWhile_cons, hc, if_neg Bool.false_ne_true]
  rw [trimChars_eq (trimChars cs), hfront, trimChars_eq, List.rdropWhile_idempotent]

/-- White space at the end changes nothing about the rest. -/
theorem trimChars_append_white (cs : List Char) {c : Char} (hc : isWhite c) :
    trimChars (cs ++ [c]) = trimChars cs := by
  rw [trimChars_eq, trimChars_eq, List.dropWhile_append]
  split
  · rename_i hempty
    rw [List.isEmpty_iff.mp hempty]
    simp [hc]
  · rw [List.rdropWhile_concat_pos _ _ _ hc]

theorem trimWhite_append_newline (text : String) :
    trimWhite (text ++ "\n") = trimWhite text := by
  have hbreak : isWhite '\n' := by decide
  rw [trimWhite, String.toList_append, show "\n".toList = ['\n'] from rfl,
    trimChars_append_white _ hbreak, trimWhite]

theorem trimWhite_trimWhite (text : String) : trimWhite (trimWhite text) = trimWhite text := by
  simp only [trimWhite, String.toList_ofList, trimChars_trimChars]

/-- Nothing is taken away where there is no white space. -/
theorem trimChars_of_forall {cs : List Char} (h : ∀ c ∈ cs, isWhite c = false) :
    trimChars cs = cs := by
  have hfront : cs.dropWhile isWhite = cs := by
    cases cs with
    | nil => rfl
    | cons c cs => rw [List.dropWhile_cons, h c List.mem_cons_self, if_neg Bool.false_ne_true]
  rw [trimChars_eq, hfront, List.rdropWhile_eq_self_iff]
  intro hne
  simp [h _ (List.getLast_mem hne)]

theorem length_trimChars_le (cs : List Char) : (trimChars cs).length ≤ cs.length :=
  ((List.rdropWhile_prefix _ _).length_le).trans (List.dropWhile_sublist _).length_le

/-- The lines of a text, joined by line feeds, are the text without the carriage returns of its line
ends, but for white space at the ends. -/
theorem trimWhite_intercalate_lines (text : String) :
    trimWhite ("\n".intercalate (lines text)) = trimWhite (withoutReturns text) := by
  have hlist : String.toList ∘ String.ofList = id := by
    funext cs
    simp
  have hjoined : ("\n".intercalate (lines text)).toList =
      ['\n'].intercalate (splitLines [] text.toList) := by
    rw [String.toList_intercalate, lines, List.map_map, hlist, List.map_id]
    rfl
  have hbreak : isWhite '\n' := by decide
  obtain ⟨tail, htail, hlines⟩ := flatMap_splitLines List.not_mem_nil text.toList
  rw [List.reverse_nil, List.nil_append] at hlines
  have hends : trimChars (['\n'].intercalate (splitLines [] text.toList)) =
      trimChars ((splitLines [] text.toList).flatMap (· ++ ['\n'])) := by
    by_cases hnone : splitLines [] text.toList = []
    · rw [hnone]
      rfl
    · rw [← intercalate_append_newline hnone, trimChars_append_white _ hbreak]
  rw [trimWhite, trimWhite, hjoined, hends, hlines, toList_withoutReturns]
  rcases htail with rfl | rfl
  · rw [List.append_nil]
  · rw [trimChars_append_white _ hbreak]

end ConfigSchema.Text
