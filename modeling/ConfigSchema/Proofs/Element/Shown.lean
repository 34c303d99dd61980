import ConfigSchema.Proofs.Element.Dumped
import ConfigSchema.Proofs.Element.Restore

/-!
# What is shown of a document

Without its comments, what is written of a document is a value again: without the entries that are
left out, and with code blocks as lists of lines.

## Main definitions

- `Element.shown` — the value that is written of a document

## Main statements

- `Element.withoutComments_events` — the events of a document are those of the value that is shown,
  and comments
-/

namespace ConfigSchema

namespace Element

mutual

/-- The value that is written of a document. Entries are left out where the options and the element
say so, and the text of a code block is given by its lines. -/
def shown : Element → (opts : DumpOptions) → Value → Value
  | scalar _ _, _, value => value
  | code _, _, value =>
      match value with
      | .str block => .seq ((Text.lines block).map .str)
      | value => value
  | keyed _ children _, opts, value =>
      match value with
      | .map fields =>
          .map ⟨shownEntries children opts fields ++ fields.entries.filter fun entry =>
            !children.any (·.isNamed entry.1)⟩
      | value => value
  | category _ item _ _, opts, value =>
      match value with
      | .map fields => .map ⟨fields.entries.map fun entry => (entry.1, item.shown opts entry.2)⟩
      | value => value
  | list _ item _ _, opts, value =>
      match value with
      | .seq items => .seq (items.map fun value => item.shown opts value)
      | value => value
  | derived _ _, _, value => value
termination_by structural element => element

/-- The declared entries that are written of a section. -/
def shownEntries : List Element → (opts : DumpOptions) → OrderedMap Value →
    List (String × Value)
  | [], _, _ => []
  | child :: rest, opts, fields =>
      let value? := fields.get? child.key
      let entry := if child.isOmitted opts value? then []
        else [(child.key, child.shown opts (value?.getD .null))]
      entry ++ shownEntries rest opts fields
termination_by structural children => children

end

/-! ## The events of a document -/

theorem dumpedEntries_eq_shownEntries {children : List Element} {opts : DumpOptions}
    {fields : OrderedMap Value}
    (h : ∀ child ∈ children, child.isDerived = false → ∃ value,
      fields.get? child.key = some value ∧
        child.dumped opts (some value) = child.shown opts value) :
    dumpedEntries children opts fields = shownEntries children opts fields := by
  induction children with
  | nil => rfl
  | cons child rest ih =>
    rw [dumpedEntries, shownEntries,
      ih fun other hother => h other (List.mem_cons_of_mem _ hother)]
    congr 1
    split
    · rfl
    · rename_i hshown
      obtain ⟨value, hvalue, heq⟩ := h child List.mem_cons_self (not_derived_of_shown hshown)
      rw [hvalue, heq, Option.getD_some]

/-- What is written of a document in its form is what is shown of it. -/
theorem dumped_eq_shown {element : Element} (hc : element.Checked) (opts : DumpOptions)
    {document : Value} (h : element.IsForm document) :
    element.dumped opts (some document) = element.shown opts document := by
  induction element using Element.induction generalizing document with
  | scalar info type => rfl
  | code info =>
    rcases h with ⟨rfl, -⟩ | ⟨text, rfl⟩
    · rfl
    · rfl
  | keyed info children extraKeys ih =>
    obtain ⟨fields, rfl⟩ : ∃ fields, document = .map fields := by
      obtain ⟨_, derived, extras, -, -, -, rfl⟩ := h
      exact ⟨_, rfl⟩
    have hentries : dumpedEntries children opts fields = shownEntries children opts fields := by
      refine dumpedEntries_eq_shownEntries fun child hchild hplain => ?_
      obtain ⟨value, hvalue, hform⟩ := h.child hc hchild hplain
      exact ⟨value, hvalue, ih child hchild (hc.child hchild).2.2 hform⟩
    simp only [dumped, shown, Info.writtenFields?, hentries, undeclared]
  | category info item minEntries defaultKey? ih =>
    obtain ⟨fields, -, hitems, rfl⟩ := h
    simp only [dumped, shown, Info.writtenFields?, OrderedMap.mapValues]
    congr 2
    exact List.map_congr_left fun entry hentry => by rw [ih hc.entry (hitems entry hentry)]
  | list info item minLength? maxLength? ih =>
    obtain ⟨items, -, hitems, rfl⟩ := h
    simp only [dumped, shown, Info.writtenItems?, List.map_map]
    congr 1
    exact List.map_congr_left fun value hvalue => ih hc.item (hitems value hvalue)
  | derived info resolve => cases h

theorem IsForm.not_derived {element : Element} {document : Value} (h : element.IsForm document) :
    element.isDerived = false := by
  cases element with
  | derived info resolve => cases h
  | _ => rfl

/-- The events of a document in its form are those of the value that is shown, and comments. -/
theorem withoutComments_events {element : Element} (hc : element.Checked) (opts : DumpOptions)
    {document : Value} (h : element.IsForm document) :
    withoutComments (element.events opts (some document)) =
      (element.shown opts document).events := by
  rw [withoutComments_dumped hc h.not_derived, dumped_eq_shown hc opts h]

end Element

end ConfigSchema
