import ConfigSchema.Proofs.Element.Dumped
import ConfigSchema.Proofs.Element.Layer

/-!
# Code blocks that are written and read again

A code block is written as the list of its lines, and a list of lines is read as a block. The
lines lose their ends, so a carriage return in front of a line feed is not written, though a block
can hold one: what is read is the block of the text without these carriage returns.

## Main statements

- `Info.codeBlock_withoutReturns_iff` — a block is the same without these carriage returns if and
  only if it has none
- `Element.validate_code_document` — a valid block, written and read again, is this block if and
  only if no carriage return stands in front of a line feed
-/

namespace ConfigSchema

namespace Info

variable {info : Info} {path : String}

/-- Lines that are written of a text are read as the text without the carriage returns of its line
ends would be. -/
theorem validateCode_lines (info : Info) (path text : String) :
    info.validateCode path (.seq ((Text.lines text).map .str)) =
      info.validateCode path (.str (Text.withoutReturns text)) := by
  rw [validateCode, codeLines_map_str, Outcome.ok_bind, codeBlock_linesOf]
  rfl

/-- A block is its own block. -/
theorem codeBlock_of_validateCode {value : Value} {block : String} (hnull : value ≠ .null)
    (h : info.validateCode path value = .ok (.str block)) : codeBlock [block] = block := by
  obtain ⟨text, htext⟩ := validateCode_eq_ok hnull h
  obtain rfl := Value.str.inj htext
  exact codeBlock_codeBlock text

/-- Taking carriage returns away changes a block if there are any, since the line feed at its end
stays there. -/
theorem codeBlock_withoutReturns_iff {block : String} (h : codeBlock [block] = block) :
    codeBlock [Text.withoutReturns block] = block ↔ ¬['\r', '\n'] <:+: block.toList := by
  rw [← Text.withoutReturns_eq_iff]
  constructor
  · intro heq
    obtain ⟨text, htext⟩ : ∃ text, block.toList = text ++ ['\n'] :=
      ⟨_, by rw [← h, codeBlock, String.toList_append]; rfl⟩
    obtain ⟨rest, hrest⟩ := Text.exists_dropReturns_concat text
    -- the text in front of the line feed is `rest` without the white space at its ends
    have htrim : Text.trimChars rest = text := by
      have hlist := congrArg String.toList heq
      have hbreak : Text.isWhite '\n' := by decide
      rw [codeBlock, String.intercalate_singleton, String.toList_append, Text.trimWhite,
        Text.toList_withoutReturns, htext, hrest, Text.trimChars_append_white _ hbreak,
        String.toList_ofList] at hlist
      exact List.append_cancel_right hlist
    have hdrop := Text.dropReturns_sublist (text ++ ['\n'])
    have hlength : text.length ≤ rest.length := htrim ▸ Text.length_trimChars_le rest
    have hsame : Text.dropReturns (text ++ ['\n']) = text ++ ['\n'] :=
      hdrop.eq_of_length_le (by rw [hrest]; simpa using hlength)
    rw [← String.toList_inj, Text.toList_withoutReturns, htext, hsame]
  · intro heq
    rw [heq, h]

end Info

namespace Element

/-- A valid block that is written and read again is validated like the block without the carriage
returns of its line ends. If it was made from a given value and nothing changes it in a last step,
it is the block again if and only if there are none. -/
theorem validate_code_document (info : Info) (opts : DumpOptions) {raw : Value} {block : String}
    (hvalid : (code info).validate .full raw = .ok (.str block)) :
    ∃ read, Value.ofEvents? ((code info).document opts (some (.str block))) = .ok read ∧
      (code info).validate .full read =
        (code info).validate .full (.str (Text.withoutReturns block)) ∧
      (¬['\r', '\n'] <:+: block.toList →
        (code info).validate .full read = (code info).validate .full (.str block)) ∧
      (info.finish? = none → (raw = .null → Info.codeBlock [block] = block) →
        ((code info).validate .full read = .ok (.str block) ↔
          ¬['\r', '\n'] <:+: block.toList)) := by
  have hread : (code info).validate .full (.seq ((Text.lines block).map .str)) =
      (code info).validate .full (.str (Text.withoutReturns block)) := by
    rw [validate, validate, validateAt_code (.inl rfl), validateAt_code (.inl rfl),
      Info.validateCode_lines]
  refine ⟨.seq ((Text.lines block).map .str), ?_, hread, ?_, ?_⟩
  · have hproper : (Value.seq ((Text.lines block).map .str)).Proper := by
      refine Value.Proper.seq_iff.mpr fun item hitem => ?_
      obtain ⟨line, -, rfl⟩ := List.mem_map.mp hitem
      exact .of_scalar (by simp) (by simp)
    exact ofEvents?_document_of hproper (withoutComments_codeEvents _)
  · intro hreturn
    rw [hread, (Text.withoutReturns_eq_iff block).mpr hreturn]
  · intro hfinish hdefault
    have hunfinished : (code info).info.finish? = none := hfinish
    have hblock : Info.codeBlock [block] = block := by
      by_cases hraw : raw = .null
      · exact hdefault hraw
      · rw [validate_of_unfinished hunfinished, validateAt_code (.inl rfl)] at hvalid
        exact Info.codeBlock_of_validateCode hraw hvalid
    rw [hread, validate_of_unfinished hunfinished, validateAt_code (.inl rfl), Info.validateCode,
      ← Info.codeBlock_withoutReturns_iff hblock]
    simp

/-- A block with a blank line is there again after it has been written and read. -/
theorem validate_code_document_blankLine : ∃ read,
    Value.ofEvents? ((code {}).document {} (some (.str "if ready:\n\n  go\n"))) = .ok read ∧
      (code {}).validate .full read = .ok (.str "if ready:\n\n  go\n") := by
  have hvalid : (code {}).validate .full (.seq [.str "if ready:", .null, .str "", .str "  go "]) =
      .ok (.str "if ready:\n\n  go\n") := rfl
  obtain ⟨read, hread, -, -, hagain⟩ := validate_code_document {} {} hvalid
  exact ⟨read, hread, (hagain rfl (by simp)).mpr (by decide)⟩

/-- A carriage return in front of a line feed is lost when a block is written and read. -/
theorem validate_code_document_ne : ¬∀ (info : Info) (raw : Value) (block : String),
    (code info).check = .ok () → (code info).validate .full raw = .ok (.str block) →
    ∃ read, Value.ofEvents? ((code info).document {} (some (.str block))) = .ok read ∧
      (code info).validate .full read = .ok (.str block) := by
  intro h
  obtain ⟨read, hread, hagain⟩ := h {} (.str "a\r\nb") "a\r\nb\n" rfl rfl
  obtain rfl : .seq [.str "a", .str "b"] = read := Except.ok.inj hread
  exact absurd (Value.str.inj (Except.ok.inj hagain)) (by decide)

end Element

end ConfigSchema
