import ConfigSchema.Proofs.Element.Parts
import ConfigSchema.Proofs.Element.Paths
import ConfigSchema.Proofs.Element.Steps
import ConfigSchema.Proofs.Text.Lines

/-!
# The form of valid documents

Validation brings a document into a form that can be told from the document alone, without the raw
value that it was made from.

## Main definitions

- `ScalarType.Holds` — a value is of a type
- `Element.IsForm` — the document has the form of the element
- `ExtraForm` — the undeclared entries of a section have their form

## Main statements

- `ScalarType.holds_of_convert`, `ScalarType.Holds.convert` — what is brought into a type is of it,
  and what is of it stays as it is
- `Element.isForm_of_validateScalar`, `Element.isForm_of_validateCode` — what validation gives has
  the form of the element, where this is a scalar or a code block
-/

namespace ConfigSchema

/-- The entries of a section in its form that no child declares. -/
structure ExtraForm (info : Info) (children : List Element) (extraKeys : Bool)
    (extras : List (String × Value)) : Prop where
  distinct : (extras.map Prod.fst).Nodup
  undeclared : ∀ key ∈ extras.map Prod.fst, key ∉ children.map Element.key
  folded : ∀ key ∈ extras.map Prod.fst, info.keyCase.apply key = key
  proper : ∀ entry ∈ extras, entry.2.Proper
  allowed : extraKeys ∨ extras = []

/-- The entries of a category in its form, but for their values. -/
structure CategoryForm (info : Info) (minEntries : Nat) (defaultKey? : Option String)
    (fields : OrderedMap Value) : Prop where
  distinct : fields.Distinct
  folded : fields.Folded info.keyCase
  choices : ∀ key ∈ fields.keys, info.checkKey "" key = .ok ()
  enough : minEntries ≤ fields.size
  unshared : ∀ key, defaultKey? = some key → key ∉ fields.keys

/-- The items of a list in its form, but for their values. -/
structure ListForm (info : Info) (minLength? maxLength? : Option Nat) (items : List Value) :
    Prop where
  length : checkLength "" minLength? maxLength? items.length = .ok ()
  filled : info.required → items ≠ []

namespace Element

mutual

/-- The document has the form that validation against the element gives. -/
def IsForm : Element → Value → Prop
  | scalar info type, document => info.validateScalar type "" document = .ok document
  | code info, document =>
      (document = .null ∧ info.absent "" = .ok .null) ∨
        ∃ text, document = .str (Info.codeBlock [text])
  | keyed info children extraKeys, document => ∃ entries fields extras,
      EntriesForm children entries ∧ resolveDerived "" ⟨entries⟩ children = .ok fields ∧
        ExtraForm info children extraKeys extras ∧ document = .map ⟨fields.entries ++ extras⟩
  | category info item minEntries defaultKey?, document => ∃ fields,
      CategoryForm info minEntries defaultKey? fields ∧
        (∀ entry ∈ fields.entries, item.IsForm entry.2) ∧ document = .map fields
  | list info item minLength? maxLength?, document => ∃ items,
      ListForm info minLength? maxLength? items ∧ (∀ value ∈ items, item.IsForm value) ∧
        document = .seq items
  | derived _ _, _ => False
termination_by structural element => element

/-- The entries of a section before any is computed: those that are declared, in their order. -/
def EntriesForm : List Element → List (String × Value) → Prop
  | [], entries => entries = []
  | child :: rest, entries => ∃ value more,
      entries = (child.key, value) :: more ∧
        (if child.isDerived then value = .null else child.IsForm value) ∧ EntriesForm rest more
termination_by structural children => children

end

/-- The declared entries stand under the names of the children. -/
theorem EntriesForm.keys {children : List Element} {entries : List (String × Value)}
    (h : EntriesForm children entries) : entries.map Prod.fst = children.map key := by
  induction children generalizing entries with
  | nil => simp [show entries = [] from h]
  | cons child rest ih =>
    obtain ⟨value, more, rfl, -, hmore⟩ := h
    simp [ih hmore]

end Element

/-! ## Scalars and code blocks -/

/-- The value is of the type. -/
inductive ScalarType.Holds : ScalarType → Value → Prop
  | str (text : String) : Holds .str (.str text)
  | int (number : Int64) : Holds .int (.int number)
  | float (number : Float) : Holds .float (.float number)
  | bool (flag : Bool) : Holds .bool (.bool flag)
  | path {text : String} (hfilled : text ≠ "") : Holds .path (.str text)
  | pattern {p : Pattern} {regex : Pattern.Regex} {text : String} (hregex : p.regex? = some regex)
      (haccepts : regex.accepts text) : Holds (.pattern p) (.str text)

namespace ScalarType

variable {type : ScalarType} {path : String} {value converted : Value}

theorem holds_of_convert_str (h : str.convert path value = .ok converted) :
    str.Holds converted := by
  cases value with
  | null => cases h
  | seq items => cases h
  | map fields => cases h
  | _ =>
    obtain rfl := Except.ok.inj h
    exact .str _

theorem holds_of_convert_int (h : int.convert path value = .ok converted) :
    int.Holds converted := by
  cases value with
  | int number =>
    obtain rfl := Except.ok.inj h
    exact .int number
  | str text =>
    simp only [convert] at h
    split at h
    · obtain rfl := Except.ok.inj h
      exact .int _
    · cases h
  | _ => cases h

theorem holds_of_convert_float (h : float.convert path value = .ok converted) :
    float.Holds converted := by
  cases value with
  | int number =>
    obtain rfl := Except.ok.inj h
    exact .float _
  | float number =>
    obtain rfl := Except.ok.inj h
    exact .float number
  | str text =>
    simp only [convert] at h
    split at h
    · obtain rfl := Except.ok.inj h
      exact .float _
    · cases h
  | _ => cases h

theorem holds_of_convert_bool (h : bool.convert path value = .ok converted) :
    bool.Holds converted := by
  cases value with
  | bool flag =>
    obtain rfl := Except.ok.inj h
    exact .bool flag
  | _ => cases h

theorem holds_of_convert_path (h : ScalarType.path.convert path value = .ok converted) :
    ScalarType.path.Holds converted := by
  cases value with
  | str text =>
    simp only [convert] at h
    split at h
    · cases h
    · rename_i hfilled
      obtain rfl := Except.ok.inj h
      exact .path (by simpa using hfilled)
  | _ => cases h

theorem holds_of_convert_pattern {p : Pattern}
    (h : (pattern p).convert path value = .ok converted) : (pattern p).Holds converted := by
  cases value with
  | str text =>
    simp only [convert] at h
    split at h
    · cases h
    · rename_i regex hregex
      split at h
      · rename_i haccepts
        obtain rfl := Except.ok.inj h
        exact .pattern hregex haccepts
      · cases h
  | _ => cases h

/-- A value that has been brought into a type is of this type. -/
theorem holds_of_convert (h : type.convert path value = .ok converted) : type.Holds converted := by
  cases type with
  | str => exact holds_of_convert_str h
  | int => exact holds_of_convert_int h
  | float => exact holds_of_convert_float h
  | bool => exact holds_of_convert_bool h
  | path => exact holds_of_convert_path h
  | pattern p => exact holds_of_convert_pattern h

/-- A value of a type is in this type already. -/
theorem Holds.convert (h : type.Holds value) (path : String) :
    type.convert path value = .ok value := by
  cases h with
  | path hfilled => simp [ScalarType.convert, hfilled]
  | pattern hregex haccepts => simp [ScalarType.convert, hregex, haccepts]
  | _ => rfl

theorem Holds.isNull (h : type.Holds value) : value.isNull = false := by
  cases h <;> rfl

end ScalarType

namespace Info

variable {info : Info} {path : String}

/-- What is absent stands for the default, or else for null. -/
theorem absent_eq_ok {document : Value} :
    info.absent path = .ok document ↔ info.default? = some document ∨
      info.default? = none ∧ info.required = false ∧ document = .null := by
  unfold Info.absent
  cases hdefault : info.default? with
  | some default => simp
  | none =>
    cases hrequired : info.required with
    | true => simp
    | false => simp [eq_comm]

/-- The valid form of a value that is given is not null, and is valid as it stands. -/
theorem validateScalar_converted {type : ScalarType} {value document : Value}
    (hvalue : value.isNull = false) (h : info.validateScalar type path value = .ok document) :
    info.validateScalar type path document = .ok document ∧ document.isNull = false := by
  rw [Info.validateScalar, hvalue, if_neg Bool.false_ne_true] at h
  obtain ⟨converted, hconvert, h⟩ := Outcome.bind_eq_ok.mp h
  obtain ⟨_, hchoices, h⟩ := Outcome.bind_eq_ok.mp h
  obtain ⟨_, hrange, h⟩ := Outcome.bind_eq_ok.mp h
  obtain rfl := Outcome.pure_eq_ok.mp h
  have hholds := ScalarType.holds_of_convert hconvert
  simp [Info.validateScalar, hholds.isNull, hholds.convert path, hchoices, hrange, pure,
    Except.pure]

/-- A valid scalar is valid as it stands, if the default is. -/
theorem validateScalar_self {type : ScalarType} {value document : Value}
    (hdefault : ∀ default, info.default? = some default →
      info.validateScalar type path default = .ok default)
    (h : info.validateScalar type path value = .ok document) :
    info.validateScalar type path document = .ok document := by
  cases hvalue : value.isNull with
  | false => exact (validateScalar_converted hvalue h).1
  | true =>
    rw [Info.validateScalar, hvalue, if_pos rfl] at h
    rcases absent_eq_ok.mp h with hsome | ⟨-, -, rfl⟩
    · exact hdefault _ hsome
    · exact h

/-- A valid scalar is no collection. -/
theorem not_collection_of_validateScalar {type : ScalarType} {document : Value}
    (h : info.validateScalar type path document = .ok document) :
    (∀ items, document ≠ .seq items) ∧ ∀ fields, document ≠ .map fields := by
  constructor <;> rintro inner rfl <;> cases type <;>
    simp [Info.validateScalar, Value.isNull, ScalarType.convert] at h

theorem codeBlock_eq (lines : List String) :
    codeBlock lines = codeBlock ["\n".intercalate lines] := by
  rw [codeBlock, codeBlock, String.intercalate_singleton]

/-- What is given for a code block becomes a block that ends with a line feed. -/
theorem validateCode_eq_ok {value document : Value} (hnull : value ≠ .null)
    (h : info.validateCode path value = .ok document) :
    ∃ text, document = .str (codeBlock [text]) := by
  cases value with
  | null => exact absurd rfl hnull
  | map fields => cases h
  | seq items =>
    obtain ⟨lines, -, h⟩ := Outcome.bind_eq_ok.mp h
    rw [Outcome.pure_eq_ok, codeBlock_eq] at h
    exact ⟨_, h.symm⟩
  | _ => exact ⟨_, (Except.ok.inj h).symm⟩

/-- A block is a block as it stands. -/
theorem codeBlock_codeBlock (text : String) : codeBlock [codeBlock [text]] = codeBlock [text] := by
  simp only [codeBlock, String.intercalate_singleton, Text.trimWhite_append_newline,
    Text.trimWhite_trimWhite]

/-- The lines of a text make the block of the text without the carriage returns of its line ends. -/
theorem codeBlock_linesOf (text : String) :
    codeBlock (Text.lines text) = codeBlock [Text.withoutReturns text] := by
  rw [codeBlock, codeBlock, String.intercalate_singleton, Text.trimWhite_intercalate_lines]

/-- A block is put together again from its lines. -/
theorem codeBlock_lines {text : String}
    (h : ¬['\r', '\n'] <:+: (codeBlock [text]).toList) :
    codeBlock (Text.lines (codeBlock [text])) = codeBlock [text] := by
  rw [codeBlock_linesOf, (Text.withoutReturns_eq_iff _).mpr h, codeBlock_codeBlock]

/-- Lines of text are taken as they are. -/
theorem codeLines_map_str (path : String) (index : Nat) (lines : List String) :
    codeLines path index (lines.map .str) = .ok lines := by
  induction lines generalizing index with
  | nil => rfl
  | cons line rest ih => simp [codeLines, codeLine, ih, pure, Except.pure]

end Info

namespace Element

variable {info : Info}

theorem isForm_of_validateScalar {type : ScalarType} {path : String} {value document : Value}
    (hs : (scalar info type).Everywhere Settled)
    (h : info.validateScalar type path value = .ok document) :
    (scalar info type).IsForm document := by
  have hroot := (info.validateScalar_alike type path "" value document).mp h
  refine Info.validateScalar_self (fun default hdefault => ?_) hroot
  have hfixed := hs.self.fixed default hdefault
  rw [hs.self.validate] at hfixed
  exact hfixed

theorem isForm_of_validateCode {path : String} {value document : Value}
    (hs : (code info).Everywhere Settled) (h : info.validateCode path value = .ok document) :
    (code info).IsForm document := by
  by_cases hvalue : value = .null
  · subst hvalue
    by_cases hdocument : document = .null
    · subst hdocument
      exact .inl ⟨rfl, (info.absent_alike path "" .null).mp h⟩
    · -- the document is the default, which is not null and stays as it is
      rcases Info.absent_eq_ok.mp h with hsome | ⟨-, -, hnull⟩
      · have hfixed := hs.self.fixed _ hsome
        rw [hs.self.validate] at hfixed
        exact .inr (Info.validateCode_eq_ok hdocument hfixed)
      · exact absurd hnull hdocument
  · exact .inr (Info.validateCode_eq_ok hvalue h)

end Element

end ConfigSchema
