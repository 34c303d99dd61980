import ConfigSchema.Element.Text
import ConfigSchema.Proofs.Element.Dumped

/-!
# What a dump exposes

Entries of hidden and of computed elements stay out of dumps. A dump depends on the rest of a
document only: documents that differ in such entries, at any depth, are written alike.

## Main definitions

- `Element.isConcealed` — the element is hidden or computed
- `Element.exposed` — a value without the entries of concealed elements

## Main statements

- `Element.exposed_insert_of_concealed` — the entries of concealed elements are free
- `Element.events_exposed` — a value is written as what is exposed of it
- `Element.dump_eq_of_exposed` — documents with the same exposed part have the same dump
-/

namespace ConfigSchema.Element

/-- Whether the entry of the element stays out of dumps, whatever its value is. -/
def isConcealed (element : Element) : Bool := element.isDerived || element.info.hidden

mutual

/-- The value without the entries of concealed elements in its sections. The other entries keep
their order, and a value of another shape than the element stays as it is. -/
def exposed : Element → Value → Value
  | keyed _ children _, .map fields =>
      .map ⟨fields.entries.filterMap fun entry => exposedField? children entry⟩
  | category _ item _ _, .map fields => .map (fields.mapValues fun value => item.exposed value)
  | list _ item _ _, .seq items => .seq (items.map fun value => item.exposed value)
  | _, value => value
termination_by structural element => element

/-- What is exposed of an entry of a section: nothing if its element is concealed, and all of it if
no element declares it. -/
def exposedField? : List Element → String × Value → Option (String × Value)
  | [], entry => some entry
  | child :: rest, entry =>
      if child.isNamed entry.1 then
        if child.isConcealed then none else some (entry.1, child.exposed entry.2)
      else exposedField? rest entry
termination_by structural children => children

end

/-- What is exposed of a section. -/
def exposedFields (children : List Element) (fields : OrderedMap Value) : OrderedMap Value :=
  ⟨fields.entries.filterMap fun entry => exposedField? children entry⟩

variable {info : Info} {opts : DumpOptions} {children : List Element}

theorem exposed_keyed {extraKeys : Bool} (fields : OrderedMap Value) :
    (keyed info children extraKeys).exposed (.map fields) = .map (exposedFields children fields) :=
  rfl

/-! ## One entry -/

theorem isNamed_iff_of_name {child : Element} (hname : child.info.name? = some child.key)
    (key : String) : child.isNamed key ↔ child.key = key := by
  rw [isNamed, hname]
  simp

/-- Exposing an entry does not touch its key. -/
theorem fst_of_exposedField? {entry shown : String × Value}
    (h : exposedField? children entry = some shown) : shown.1 = entry.1 := by
  induction children with
  | nil =>
    obtain rfl := Option.some.inj h
    rfl
  | cons child rest ih =>
    rw [exposedField?] at h
    split at h
    · split at h
      · cases h
      · obtain rfl := Option.some.inj h
        rfl
    · exact ih h

/-- An entry that no element declares is exposed as it is. -/
theorem exposedField?_of_undeclared {entry : String × Value}
    (h : children.any (·.isNamed entry.1) = false) : exposedField? children entry = some entry := by
  induction children with
  | nil => rfl
  | cons child rest ih =>
    rw [List.any_cons, Bool.or_eq_false_iff] at h
    rw [exposedField?, h.1]
    exact ih h.2

/-- The entry of a child is exposed as the child tells. -/
theorem exposedField?_of_child (hnodup : (children.map key).Nodup)
    (hnames : ∀ child ∈ children, child.info.name? = some child.key) {child : Element}
    (hchild : child ∈ children) (value : Value) :
    exposedField? children (child.key, value) =
      if child.isConcealed then none else some (child.key, child.exposed value) := by
  induction children with
  | nil => cases hchild
  | cons other rest ih =>
    rw [List.map_cons, List.nodup_cons] at hnodup
    -- the first child with the name is this one, as the names are distinct
    by_cases hkey : other.key = child.key
    · have hsame : child = other := by
        rcases List.mem_cons.mp hchild with heq | hmem
        · exact heq
        · exact absurd (hkey ▸ List.mem_map_of_mem hmem) hnodup.1
      subst hsame
      rw [exposedField?, if_pos ((isNamed_iff_of_name (hnames child hchild) child.key).mpr rfl)]
    · have hother : child ∈ rest := by
        refine (List.mem_cons.mp hchild).resolve_left ?_
        rintro rfl
        exact hkey rfl
      have hunnamed : ¬other.isNamed child.key := by
        rw [isNamed_iff_of_name (hnames other List.mem_cons_self)]
        exact hkey
      rw [exposedField?, if_neg hunnamed]
      exact ih hnodup.2 (fun child hchild => hnames child (List.mem_cons_of_mem _ hchild)) hother

/-! ## Sections -/

/-- Whatever is put under the name of a concealed child, nothing else is exposed. -/
theorem exposed_insert_of_concealed {extraKeys : Bool}
    (hc : (keyed info children extraKeys).Checked) {child : Element} (hchild : child ∈ children)
    (hconcealed : child.isConcealed) (fields : OrderedMap Value) (value : Value) :
    (keyed info children extraKeys).exposed (.map (fields.insert child.key value)) =
      (keyed info children extraKeys).exposed (.map fields) := by
  have hnone : ∀ value, exposedField? children (child.key, value) = none := by
    intro value
    rw [exposedField?_of_child hc.nodup_keys (fun child hchild => (hc.child hchild).1) hchild,
      if_pos hconcealed]
  obtain ⟨entries⟩ := fields
  rw [exposed_keyed, exposed_keyed]
  apply congrArg Value.map
  simp only [exposedFields, OrderedMap.insert, OrderedMap.mk.injEq]
  induction entries with
  | nil => rw [OrderedMap.insertEntry, List.filterMap_cons_none (hnone value)]
  | cons entry rest ih =>
    obtain ⟨key, old⟩ := entry
    by_cases hkey : key = child.key
    · subst hkey
      rw [OrderedMap.insertEntry, if_pos (by simp), List.filterMap_cons_none (hnone value),
        List.filterMap_cons_none (hnone old)]
    · rw [OrderedMap.insertEntry, if_neg (by simpa using hkey), List.filterMap_cons,
        List.filterMap_cons, ih]

/-- A child that is not concealed finds the exposed part of its entry. -/
theorem get?_exposedFields (hnodup : (children.map key).Nodup)
    (hnames : ∀ child ∈ children, child.info.name? = some child.key) {child : Element}
    (hchild : child ∈ children) (hshown : child.isConcealed = false) (fields : OrderedMap Value) :
    (exposedFields children fields).get? child.key = (fields.get? child.key).map child.exposed := by
  obtain ⟨entries⟩ := fields
  simp only [exposedFields, OrderedMap.get?]
  induction entries with
  | nil => rfl
  | cons entry rest ih =>
    by_cases hkey : child.key = entry.1
    · obtain ⟨key, value⟩ := entry
      subst hkey
      rw [List.filterMap_cons, exposedField?_of_child hnodup hnames hchild, hshown]
      simp
    · obtain ⟨key, value⟩ := entry
      rw [OrderedMap.lookup_cons_of_ne value rest hkey, ← ih]
      cases hentry : exposedField? children (key, value) with
      | none => rw [List.filterMap_cons_none hentry]
      | some shown =>
        have hother : child.key ≠ shown.1 := by
          rw [fst_of_exposedField? hentry]
          exact hkey
        rw [List.filterMap_cons_some hentry]
        exact OrderedMap.lookup_cons_of_ne shown.2 _ hother

/-- The undeclared entries are all exposed. -/
theorem undeclared_exposedFields (fields : OrderedMap Value) :
    undeclared children (exposedFields children fields) = undeclared children fields := by
  obtain ⟨entries⟩ := fields
  simp only [undeclared, exposedFields]
  induction entries with
  | nil => rfl
  | cons entry rest ih =>
    cases hdeclared : children.any (·.isNamed entry.1) with
    | false => simp [exposedField?_of_undeclared hdeclared, hdeclared, ih]
    | true =>
      cases hentry : exposedField? children entry with
      | none => simp [hentry, hdeclared, ih]
      | some shown => simp [hentry, fst_of_exposedField? hentry, hdeclared, ih]

/-- The declared entries of a section are written alike if those of the children that are not
concealed are. -/
theorem childEvents_congr (hopts : opts.omitDefaults = false) {fields others : OrderedMap Value}
    (h : ∀ child ∈ children, child.isConcealed = false →
      child.events opts (fields.get? child.key) = child.events opts (others.get? child.key)) :
    childEvents children opts (some fields) = childEvents children opts (some others) := by
  have homitted : ∀ (child : Element) value?, child.isOmitted opts value? = child.isConcealed := by
    intro child value?
    simp [isOmitted, isConcealed, hopts]
  induction children with
  | nil => rfl
  | cons child rest ih =>
    rw [childEvents, childEvents, ih fun other hother => h other (List.mem_cons_of_mem _ hother)]
    simp only [Option.bind_some, homitted]
    cases hconcealed : child.isConcealed with
    | true => rfl
    | false => rw [h child List.mem_cons_self hconcealed]

/-! ## The whole -/

/-- A value is written as what is exposed of it. -/
theorem events_exposed {element : Element} (hc : element.Checked)
    (hopts : opts.omitDefaults = false) (value : Value) :
    element.events opts (some (element.exposed value)) = element.events opts (some value) := by
  induction element using Element.induction generalizing value with
  | keyed info children extraKeys ih =>
    cases value with
    | map fields =>
      have hnames : ∀ child ∈ children, child.info.name? = some child.key :=
        fun child hchild => (hc.child hchild).1
      have hchildren : childEvents children opts (some (exposedFields children fields)) =
          childEvents children opts (some fields) := by
        refine childEvents_congr hopts fun child hchild hshown => ?_
        rw [get?_exposedFields hc.nodup_keys hnames hchild hshown]
        cases fields.get? child.key with
        | none => rfl
        | some value => exact ih child hchild (hc.child hchild).2.2 value
      have hextra : extraEvents children (some (exposedFields children fields)) =
          extraEvents children (some fields) := by
        rw [extraEvents_eq, extraEvents_eq, Option.getD_some, Option.getD_some,
          undeclared_exposedFields]
      rw [exposed_keyed]
      simp only [events, hchildren, hextra]
    | _ => rfl
  | category info item minEntries defaultKey? ih =>
    cases value with
    | map fields =>
      simp only [exposed, events, OrderedMap.mapValues, Option.map_some, Option.getD_some,
        List.flatMap_map, ih hc.entry]
    | _ => rfl
  | list info item minLength? maxLength? ih =>
    cases value with
    | seq items => simp only [exposed, events, List.flatMap_map, ih hc.item]
    | _ => rfl
  | _ => rfl

/-- Hidden and computed entries have no influence on a dump: documents that differ in such entries
only have the same events and the same text. -/
theorem dump_eq_of_exposed {schema : Element} (hcheck : schema.check = .ok ())
    (hopts : opts.omitDefaults = false) {document other : Value}
    (h : schema.exposed document = schema.exposed other) :
    schema.document opts (some document) = schema.document opts (some other) ∧
      schema.dump opts (some document) = schema.dump opts (some other) := by
  have hc : schema.Checked := ⟨"", false, hcheck⟩
  have hevents : schema.events opts (some document) = schema.events opts (some other) := by
    rw [← events_exposed hc hopts document, h, events_exposed hc hopts other]
  have hdocument : schema.document opts (some document) = schema.document opts (some other) := by
    rw [Element.document, Element.document, hevents]
  exact ⟨hdocument, by rw [dump, dump, hdocument]⟩

/-- Accounts, each with a token that is hidden and a label that is computed. -/
def accounts : Element :=
  let account : Element := .keyed {} [
    .scalar { name? := some "name", required := true } .str,
    .scalar { name? := some "token", hidden := true } .str,
    .derived { name? := some "label" } fun siblings =>
      .ok ((siblings.get? "name").getD .null)] true
  .keyed {} [
    .list { name? := some "admins" } account none none,
    .category { name? := some "users" } account 0 none] false

/-- Accounts with tokens. -/
def accountsTold : Value := .map ⟨[
  ("admins", .seq [.map ⟨[("token", .str "s3"), ("name", .str "Ann"), ("since", .int 3)]⟩]),
  ("users", .map ⟨[("b", .map ⟨[("name", .str "Bob"), ("label", .int 1)]⟩)]⟩)]⟩

/-- The same accounts with other labels, and without tokens. -/
def accountsUntold : Value := .map ⟨[
  ("admins", .seq [.map ⟨[("name", .str "Ann"), ("since", .int 3), ("label", .str "Ann")]⟩]),
  ("users", .map ⟨[("b", .map ⟨[("token", .seq []), ("name", .str "Bob")]⟩)]⟩)]⟩

/-- Nothing of the tokens and the labels can be seen. -/
theorem dump_accountsTold : accounts.exposed accountsTold = accounts.exposed accountsUntold ∧
    accounts.document {} (some accountsTold) = accounts.document {} (some accountsUntold) ∧
    accounts.dump {} (some accountsTold) = accounts.dump {} (some accountsUntold) :=
  ⟨rfl, dump_eq_of_exposed rfl rfl rfl⟩

end ConfigSchema.Element
