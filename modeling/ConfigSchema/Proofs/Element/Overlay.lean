import ConfigSchema.Element.Text
import ConfigSchema.Proofs.Element.Merge

/-!
# An overlay changes only what it says

A layer is put on top of a document and the result is validated again. Below sections, what the
layer leaves open stays as it is in the document, and a scalar or a code block that it gives is
taken from the layer.

## Main definitions

- `Value.below?` — the value under the keys of nested mappings
- `Element.Leads` — names lead through sections to a part of the schema
- `Element.given?` — what a raw value gives for the part that names lead to

## Main statements

- `Element.frame` — what the layer leaves open is valid as it stands, at every depth of sections
- `Element.overlay_frame` — an overlay changes only what it says
-/

namespace ConfigSchema

/-- The value under the keys of nested mappings, if there is one. -/
def Value.below? : Value → (keys : List String) → Option Value
  | value, [] => some value
  | .map fields, key :: rest => (fields.get? key).bind fun inner => inner.below? rest
  | _, _ :: _ => none

@[simp] theorem Value.below?_nil (value : Value) : value.below? [] = some value := by
  rw [Value.below?.eq_def]

namespace Element

variable {path : String}

/-! ## Names that lead through sections -/

/-- Names lead through sections to a part of the schema. -/
inductive Leads : Element → (names : List String) → (part : Element) → Prop
  | here (element : Element) : Leads element [] element
  | step {info : Info} {children : List Element} {extraKeys : Bool} {child part : Element}
      {names : List String} (hchild : child ∈ children) (h : Leads child names part) :
      Leads (keyed info children extraKeys) (child.key :: names) part

/-- What a raw value gives for the part that names lead to, each section reading the keys in its own
case. -/
def given? : Element → (raw : Value) → (names : List String) → Option Value
  | _, raw, [] => some raw
  | element, .map fields, name :: rest =>
      match element.child? name, element.info.entry? fields name with
      | some child, some inner => child.given? inner rest
      | _, _ => none
  | _, _, _ :: _ => none

@[simp] theorem given?_nil (element : Element) (raw : Value) :
    element.given? raw [] = some raw := by
  rw [given?.eq_def]

/-- A raw value gives nothing for the part that names lead to: there is no entry, or it is null. -/
def LeavesOpen (element : Element) (raw : Value) (names : List String) : Prop :=
  element.given? raw names = none ∨ element.given? raw names = some .null

theorem kind_of_isLeaf {element : Element} (h : element.isLeaf) :
    element.holdsFields = false ∧ element.isList = false ∧ element.isDerived = false := by
  cases element <;> first | exact ⟨rfl, rfl, rfl⟩ | cases h

/-- In a consistent section the name of a child leads to it. -/
theorem Checked.child?_key {info : Info} {children : List Element} {extraKeys : Bool}
    (hc : (keyed info children extraKeys).Checked) {child : Element} (hchild : child ∈ children) :
    (keyed info children extraKeys).child? child.key = some child := by
  show children.find? (·.isNamed child.key) = some child
  have hnamed : child.isNamed child.key := by
    simp only [isNamed, (hc.child hchild).1, BEq.rfl]
  cases hfind : children.find? (·.isNamed child.key) with
  | none => exact absurd hnamed (List.find?_eq_none.mp hfind child hchild)
  | some other =>
    have hmem : other ∈ children := List.mem_of_find?_eq_some hfind
    have hkey : other.key = child.key := key_of_isNamed (List.find?_some hfind :)
    rw [List.inj_on_of_nodup_map hc.nodup_keys hmem hchild hkey]

/-- What two sections have under the name of a child is merged as the child tells. -/
theorem Checked.get?_mergeWith {info : Info} {children : List Element} {extraKeys : Bool}
    (hc : (keyed info children extraKeys).Checked) {child : Element} (hchild : child ∈ children)
    {base upper : OrderedMap Value} (hd : upper.Distinct) {value other : Value}
    (hbase : base.get? child.key = some value) (hupper : upper.get? child.key = some other) :
    (base.mergeWith (mergeBelow (keyed info children extraKeys)) upper).get? child.key =
      some (child.merge value other) := by
  rw [OrderedMap.get?_mergeWith base hd, hbase, hupper]
  show some (mergeBelow _ child.key value other) = _
  rw [mergeBelow, hc.child?_key hchild]

theorem given?_step {info : Info} {children : List Element} {extraKeys : Bool}
    (hc : (keyed info children extraKeys).Checked) {child : Element} (hchild : child ∈ children)
    (fields : OrderedMap Value) (names : List String) :
    (keyed info children extraKeys).given? (.map fields) (child.key :: names) =
      (info.entry? fields child.key).bind fun inner => child.given? inner names := by
  rw [given?, hc.child?_key hchild]
  show (match some child, info.entry? fields child.key with
    | some child, some inner => child.given? inner names
    | _, _ => none) = _
  cases info.entry? fields child.key <;> rfl

/-- Where all sections keep the case of their keys, the raw value is read as it stands. -/
theorem given?_eq_below? {schema part : Element} (hc : schema.Checked)
    (hmixed : schema.Everywhere fun inner => inner.info.keyCase = .mixed) {names : List String}
    (hleads : schema.Leads names part) (raw : Value) :
    schema.given? raw names = raw.below? names := by
  induction hleads generalizing raw with
  | here element => simp
  | @step info children extraKeys child part names hchild _ ih =>
    cases raw with
    | map fields =>
      have hfold : info.foldKeys "" fields = .ok fields := by
        rw [Info.foldKeys, show info.keyCase = .mixed from hmixed.self]
      have hget := Info.get?_of_foldKeys hfold child.key
      rw [given?_step hc hchild, Value.below?, hget]
      congr 1
      funext inner
      exact ih (hc.child hchild).2.2 (hmixed.child hchild) inner
    | _ => rfl

/-! ## The frame -/

/-- A value that is given for a scalar or a code block is valid in a layer as it is in a document,
and its valid form is not null and valid as it stands. -/
theorem validateAt_full_of_given {element : Element} (hleaf : element.isLeaf) {value layer : Value}
    (hvalue : value ≠ .null) (h : element.validateAt .layer path value = .ok layer) (q : String) :
    layer ≠ .null ∧ element.validateAt .full q layer = .ok layer := by
  cases element with
  | scalar info type =>
    rw [validateAt_scalar (.inr hvalue)] at h
    have hnull : value.isNull = false := by
      cases value with
      | null => exact absurd rfl hvalue
      | _ => rfl
    obtain ⟨hself, hlayer⟩ :=
      Info.validateScalar_converted hnull ((info.validateScalar_alike type path q value layer).mp h)
    refine ⟨?_, by rw [validateAt_scalar (.inl rfl), hself]⟩
    rintro rfl
    cases hlayer
  | code info =>
    rw [validateAt_code (.inr hvalue)] at h
    obtain ⟨text, rfl⟩ := Info.validateCode_eq_ok hvalue h
    refine ⟨by simp, ?_⟩
    rw [validateAt_code (.inl rfl)]
    exact congrArg (Except.ok ∘ Value.str) (Info.codeBlock_codeBlock text)
  | _ => cases hleaf

/-- Where the raw layer is null, the document stays as it is. -/
theorem merged_of_null {element : Element} (hc : element.Checked) (hs : element.Everywhere Settled)
    {document layer merged : Value} (hform : element.IsForm document)
    (hlayer : element.validateAt .layer path .null = .ok layer) {q : String}
    (hmerged : element.validateAt .full q (element.merge document layer) = .ok merged) :
    merged = document := by
  rw [validateAt.eq_def] at hlayer
  obtain rfl := Except.ok.inj hlayer
  rw [merge_null, validateAt_of_isForm hc hs hform] at hmerged
  exact (Except.ok.inj hmerged).symm

/-- An overlay of a section is an overlay of each child that is not computed. -/
theorem exists_of_overlay_keyed {info : Info} {children : List Element} {extraKeys : Bool}
    (hc : (keyed info children extraKeys).Checked)
    (hs : (keyed info children extraKeys).Everywhere Settled) {raw : OrderedMap Value}
    {document layer merged : Value} (hform : (keyed info children extraKeys).IsForm document)
    (hlayer : (keyed info children extraKeys).validateAt .layer path (.map raw) = .ok layer)
    {q : String} (hmerged : (keyed info children extraKeys).validateAt .full q
      ((keyed info children extraKeys).merge document layer) = .ok merged)
    {child : Element} (hchild : child ∈ children) (hplain : child.isDerived = false) :
    ∃ base upper result, child.IsForm base ∧
      child.validateAt .layer (Path.join path child.key)
        ((info.entry? raw child.key).getD .null) = .ok upper ∧
      child.validateAt .full (Path.join q child.key) (child.merge base upper) = .ok result ∧
      ∀ names, document.below? (child.key :: names) = base.below? names ∧
        layer.below? (child.key :: names) = upper.below? names ∧
        merged.below? (child.key :: names) = result.below? names := by
  have hp := hs.imp fun _ => Settled.toPlain
  obtain ⟨folded, upperFields, hfolded, rfl, hdistinct, hupper⟩ :=
    exists_of_validateAt_keyed hc hp (.inr (by simp)) hlayer
  obtain ⟨_, derived, extras, -, -, -, rfl⟩ := id hform
  obtain ⟨base, hbase, hbaseForm⟩ := hform.child hc hchild hplain
  rw [merge_map (by rfl)] at hmerged
  obtain ⟨read, resultFields, hread, rfl, -, hresult⟩ :=
    exists_of_validateAt_keyed hc hp (.inl rfl) hmerged
  obtain ⟨upper, hupperGet, hupperValid⟩ := hupper child hchild hplain
  obtain ⟨result, hresultGet, hresultValid⟩ := hresult child hchild hplain
  -- the name of the child is folded, so that validation finds the merged value under it
  have hmergedGet : read.get? child.key = some (child.merge base upper) :=
    Info.get?_of_foldKeys_self hread (hc.apply_key hchild)
      (hc.get?_mergeWith hchild hdistinct hbase hupperGet)
  rw [Info.get?_of_foldKeys hfolded] at hupperValid
  rw [hmergedGet, Option.getD_some] at hresultValid
  refine ⟨base, upper, result, hbaseForm, hupperValid, hresultValid, fun names => ?_⟩
  simp only [Value.below?, hbase, hupperGet, hresultGet, Option.bind_some, and_self]

/-- Names that lead to a part that is not computed do not pass a computed one. -/
theorem Leads.not_derived {element part : Element} {names : List String}
    (h : element.Leads names part) (hplain : part.isDerived = false) :
    element.isDerived = false := by
  cases h with
  | here => exact hplain
  | step => rfl

/-- A document in its form holds every part that names lead to and that is not computed. -/
theorem Leads.exists_below? {element part : Element} {names : List String}
    (h : element.Leads names part) (hplain : part.isDerived = false) (hc : element.Checked)
    {document : Value} (hform : element.IsForm document) :
    ∃ value, document.below? names = some value := by
  induction h generalizing document with
  | here element => exact ⟨document, by simp⟩
  | @step info children extraKeys child part names hchild hrest ih =>
    obtain ⟨_, derived, extras, -, -, -, rfl⟩ := id hform
    obtain ⟨inner, hget, hinner⟩ := hform.child hc hchild (hrest.not_derived hplain)
    rw [Value.below?, hget, Option.bind_some]
    exact ih hplain (hc.child hchild).2.2 hinner

/-- What the layer leaves open stays as it is in the document. -/
theorem below?_of_leavesOpen {element part : Element} {names : List String}
    (hleads : element.Leads names part) (hplain : part.isDerived = false) (hc : element.Checked)
    (hs : element.Everywhere Settled) {raw document layer merged : Value}
    (hform : element.IsForm document) (hlayer : element.validateAt .layer path raw = .ok layer)
    {q : String}
    (hmerged : element.validateAt .full q (element.merge document layer) = .ok merged)
    {start : List String} (hstart : start <+: names) (hopen : element.LeavesOpen raw start) :
    merged.below? names = document.below? names := by
  induction hleads generalizing raw document layer merged path q start with
  | here element =>
    obtain rfl := List.prefix_nil.mp hstart
    obtain rfl : raw = .null := by simpa [LeavesOpen] using hopen
    rw [merged_of_null hc hs hform hlayer hmerged]
  | @step info children extraKeys child part names hchild hrest ih =>
    cases raw with
    | null => rw [merged_of_null hc hs hform hlayer hmerged]
    | map fields =>
      obtain ⟨base, upper, result, hbase, hupper, hresult, hbelow⟩ :=
        exists_of_overlay_keyed hc hs hform hlayer hmerged hchild (hrest.not_derived hplain)
      rw [(hbelow names).1, (hbelow names).2.2]
      -- the layer is open at the child or further down
      have hinner : ∃ next, next <+: names ∧
          child.LeavesOpen ((info.entry? fields child.key).getD .null) next := by
        cases hentry : info.entry? fields child.key with
        | none => exact ⟨[], List.nil_prefix, .inr (by simp)⟩
        | some inner =>
          cases start with
          | nil => simp [LeavesOpen] at hopen
          | cons name next =>
            obtain ⟨rfl, hnext⟩ := List.cons_prefix_cons.mp hstart
            refine ⟨next, hnext, ?_⟩
            rwa [LeavesOpen, given?_step hc hchild, hentry] at hopen
      obtain ⟨next, hnext, hopen⟩ := hinner
      exact ih hplain (hc.child hchild).2.2 (hs.child hchild) hbase hupper hresult hnext hopen
    | _ => cases hlayer

/-- A scalar or a code block that the layer gives is taken from the layer. -/
theorem below?_of_given {element part : Element} {names : List String}
    (hleads : element.Leads names part) (hleaf : part.isLeaf) (hc : element.Checked)
    (hs : element.Everywhere Settled) {raw document layer merged : Value}
    (hform : element.IsForm document) (hlayer : element.validateAt .layer path raw = .ok layer)
    {q : String}
    (hmerged : element.validateAt .full q (element.merge document layer) = .ok merged)
    {value : Value} (hgiven : element.given? raw names = some value) (hvalue : value ≠ .null) :
    ∃ inner, layer.below? names = some inner ∧ merged.below? names = some inner := by
  obtain ⟨hbare, hlist, hplain⟩ := kind_of_isLeaf hleaf
  induction hleads generalizing raw document layer merged path q with
  | here element =>
    obtain rfl : raw = value := by simpa using hgiven
    obtain ⟨hnull, hself⟩ := validateAt_full_of_given hleaf hvalue hlayer q
    have hreplaces : element.merge document layer = layer :=
      merge_of_not_leaves hbare (by simp [Leaves, hnull, hlist]) document
    rw [hreplaces, hself] at hmerged
    obtain rfl := Except.ok.inj hmerged
    exact ⟨layer, by simp, by simp⟩
  | @step info children extraKeys child part names hchild hrest ih =>
    cases raw with
    | map fields =>
      obtain ⟨base, upper, result, hbase, hupper, hresult, hbelow⟩ :=
        exists_of_overlay_keyed hc hs hform hlayer hmerged hchild (hrest.not_derived hplain)
      rw [(hbelow names).2.1, (hbelow names).2.2]
      rw [given?_step hc hchild] at hgiven
      obtain ⟨inner, hentry, hgiven⟩ := Option.bind_eq_some_iff.mp hgiven
      rw [hentry, Option.getD_some] at hupper
      exact ih hleaf (hc.child hchild).2.2 (hs.child hchild) hbase hupper hresult hgiven hbare hlist
        hplain
    | _ => cases hgiven

/-- An overlay changes only what it says. What the raw layer leaves open on the way to a part of the
schema stays as it is in the document, and a scalar or a code block that it gives is taken from the
layer. -/
theorem overlay_frame {schema part : Element} (hcheck : schema.check = .ok ())
    (hs : schema.Everywhere Settled) {names : List String} (hleads : schema.Leads names part)
    (hplain : part.isDerived = false) {raw rawLayer document layer merged : Value}
    (hraw : raw.Proper) (hdocument : schema.validate .full raw = .ok document)
    (hlayer : schema.validate .layer rawLayer = .ok layer)
    (hmerged : schema.overlay document layer = .ok merged) :
    ((∃ start, start <+: names ∧ schema.LeavesOpen rawLayer start) →
      ∃ value, document.below? names = some value ∧ merged.below? names = some value) ∧
    (part.isLeaf → ∀ given, schema.given? rawLayer names = some given → given ≠ .null →
      ∃ value, layer.below? names = some value ∧ merged.below? names = some value) := by
  have hc : schema.Checked := ⟨"", false, hcheck⟩
  rw [hs.self.validate] at hdocument hlayer
  rw [overlay, hs.self.validate] at hmerged
  have hform : schema.IsForm document := Settled.isForm hc hs hraw hdocument
  constructor
  · rintro ⟨start, hstart, hopen⟩
    obtain ⟨value, hvalue⟩ := hleads.exists_below? hplain hc hform
    refine ⟨value, hvalue, ?_⟩
    rw [below?_of_leavesOpen hleads hplain hc hs hform hlayer hmerged hstart hopen, hvalue]
  · intro hleaf given hgiven hvalue
    exact below?_of_given hleads hleaf hc hs hform hlayer hmerged hgiven hvalue

/-! ## A pet gets a new address -/

/-- The element of the owner of a pet. -/
def petOwner : Element :=
  keyed { name? := some "owner", help? := some "Who looks after the pet." } [
    scalar { name? := some "name" } .str,
    scalar { name? := some "email" } (.pattern (.ofString "[a-z0-9.]+@[a-z0-9.]+")),
    scalar { name? := some "home" } .path] false

def petRaw : Value := .map ⟨[
  ("pet", .str "cat"),
  ("owner", .map ⟨[("name", .str "Ann"), ("home", .str "/home/ann")]⟩)]⟩

def petDocument : Value := .map ⟨[
  ("pet", .str "cat"), ("legs", .int 4), ("weight", .null), ("indoor", .bool true),
  ("names", .seq []),
  ("owner", .map ⟨[("name", .str "Ann"), ("email", .null), ("home", .str "/home/ann")]⟩)]⟩

def moveRaw : Value := .map ⟨[("owner", .map ⟨[("home", .str "/home/bob")]⟩)]⟩

def moveLayer : Value := .map ⟨[
  ("pet", .null), ("legs", .null), ("weight", .null), ("indoor", .null), ("names", .null),
  ("owner", .map ⟨[("name", .null), ("email", .null), ("home", .str "/home/bob")]⟩)]⟩

def movedDocument : Value := .map ⟨[
  ("pet", .str "cat"), ("legs", .int 4), ("weight", .null), ("indoor", .bool true),
  ("names", .seq []),
  ("owner", .map ⟨[("name", .str "Ann"), ("email", .null), ("home", .str "/home/bob")]⟩)]⟩

/-- The parts of a pet have no last steps, and two of them defaults that are valid as they stand. -/
theorem settled_pet : Samples.pet.Everywhere Settled := by
  refine .of_parts (.of_default_eq_none rfl rfl) fun inner hinner => ?_
  simp only [Samples.pet, parts, List.mem_cons, List.not_mem_nil, or_false] at hinner
  rcases hinner with rfl | rfl | rfl | rfl | rfl | rfl
  · exact .of_parts (.of_default_eq_none rfl rfl) (by simp [parts])
  · exact .of_parts (.of_scalar rfl rfl rfl (by simp) (by simp)) (by simp [parts])
  · exact .of_parts (.of_default_eq_none rfl rfl) (by simp [parts])
  · exact .of_parts (.of_scalar rfl rfl rfl (by simp) (by simp)) (by simp [parts])
  · refine .of_parts (.of_default_eq_none rfl rfl) fun item hitem => ?_
    obtain rfl := List.mem_singleton.mp hitem
    exact .of_parts (.of_default_eq_none rfl rfl) (by simp [parts])
  · refine .of_parts (.of_default_eq_none rfl rfl) fun child hchild => ?_
    simp only [parts, List.mem_cons, List.not_mem_nil, or_false] at hchild
    rcases hchild with rfl | rfl | rfl
    · exact .of_parts (.of_default_eq_none rfl rfl) (by simp [parts])
    · exact .of_parts (.of_default_eq_none rfl rfl) (by simp [parts])
    · exact .of_parts (.of_default_eq_none rfl rfl) (by simp [parts])

/-- The new address changes the home of the owner, and not the name. -/
theorem overlay_frame_pet :
    Samples.pet.overlay petDocument moveLayer = .ok movedDocument ∧
      (∃ value, petDocument.below? ["owner", "name"] = some value ∧
        movedDocument.below? ["owner", "name"] = some value) ∧
      ∃ value, moveLayer.below? ["owner", "home"] = some value ∧
        movedDocument.below? ["owner", "home"] = some value := by
  have hproper : petRaw.Proper := by
    simp [petRaw, Value.Proper.of_scalar, OrderedMap.Distinct, OrderedMap.keys]
  have hleads : ∀ part ∈ petOwner.parts, Samples.pet.Leads ["owner", part.key] part := by
    intro part hpart
    have howner : petOwner ∈ Samples.pet.parts := by simp [Samples.pet, petOwner, parts]
    exact .step howner (.step hpart (.here part))
  have hlayer : Samples.pet.validate .layer moveRaw = .ok moveLayer := rfl
  refine ⟨rfl, ?_, ?_⟩
  · have hname := hleads (scalar { name? := some "name" } .str) (by simp [petOwner, parts])
    exact (overlay_frame rfl settled_pet hname rfl hproper rfl hlayer rfl).1
      ⟨["owner", "name"], List.prefix_refl _, .inl rfl⟩
  · have hhome := hleads (scalar { name? := some "home" } .path) (by simp [petOwner, parts])
    exact (overlay_frame rfl settled_pet hhome rfl hproper rfl hlayer rfl).2 rfl
      (.str "/home/bob") rfl (by simp)

end Element

end ConfigSchema
