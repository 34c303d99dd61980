import ConfigSchema.Element.Text
import ConfigSchema.Proofs.Event.Lexed
import ConfigSchema.Proofs.Event.Resolve

/-!
# Values as text

A value is written as a text that denotes this value, unless its collections nest deeper than a
reader follows them.

The text is that of a stream around the node of the value, and what the text of any stream denotes
is known. What is left is that the scalars of the value keep their types, and that its keys stay
distinct.

## Main definitions

- `Value.tree` — the tree of a value
- `Value.nesting` — how deep the collections of a value nest

## Main statements

- `Value.tree?_node` — the node of a value has the tree of the value
- `Value.ofTree?_tree` — the tree of a value denotes the value
- `Value.ofText_blockText` — the text of a value denotes the value
- `Element.ofText_dump` — the text that an element for texts writes denotes the document
-/

namespace ConfigSchema

open Yaml (Tree Problem)

namespace Value

/-! ## Values as trees -/

mutual

/-- The tree of a value. -/
def tree : Value → Tree
  | null => .null
  | bool flag => .bool flag
  | int number => .int number.toInt
  | float number => .float number
  | str text => .str text
  | seq items => .seq (itemTrees items)
  | map ⟨fields⟩ => .map (fieldTrees fields)
termination_by structural value => value

/-- The trees of items. -/
def itemTrees : List Value → List Tree
  | [] => []
  | item :: rest => item.tree :: itemTrees rest
termination_by structural items => items

/-- The trees of fields. -/
def fieldTrees : List (String × Value) → List (Tree × Tree)
  | [] => []
  | (key, value) :: rest => (.str key, value.tree) :: fieldTrees rest
termination_by structural fields => fields

end

mutual

/-- How deep the collections of the value nest: a scalar is none, and a blank collection is one. -/
def nesting : Value → Nat
  | seq items => itemNesting items + 1
  | map ⟨fields⟩ => fieldNesting fields + 1
  | _ => 0
termination_by structural value => value

/-- How deep the collections among the items nest. -/
def itemNesting : List Value → Nat
  | [] => 0
  | item :: rest => max item.nesting (itemNesting rest)
termination_by structural items => items

/-- How deep the collections in the fields nest. -/
def fieldNesting : List (String × Value) → Nat
  | [] => 0
  | (_, value) :: rest => max value.nesting (fieldNesting rest)
termination_by structural fields => fields

end

/-! ## The tree of a value -/

/-- No comments are among the events of a value. -/
theorem quiet_events (value : Value) : Quiet value.events := by
  intro text htext
  -- the events stay as they are where comments are left out, so there are none
  rw [← withoutComments_events value] at htext
  exact absurd (List.mem_filter.mp htext).2 (by simp [Event.isComment])

mutual

/-- The node of a value has the tree of the value, unless the value nests too deeply. -/
theorem tree?_node {value : Value} (hproper : value.Proper) {depth : Nat}
    (hdepth : value.nesting ≤ depth) : value.node.tree? depth = .ok value.tree := by
  match value with
  | null => exact shownTree_null ""
  | bool flag => exact shownTree_bool flag
  | int number => exact shownTree_int number
  | float number => exact shownTree_float number
  | str text => exact shownTree_str text
  | seq items =>
    -- the collection itself takes up one level
    obtain ⟨depth, rfl⟩ := Nat.exists_eq_add_of_le' (Nat.le_of_add_left_le hdepth)
    have hitems := trees?_itemNodes (fun item hitem => hproper.of_item hitem)
      (Nat.le_of_succ_le_succ hdepth) []
    rw [node, StreamNode.tree?, hitems]
    rfl
  | map ⟨fields⟩ =>
    obtain ⟨depth, rfl⟩ := Nat.exists_eq_add_of_le' (Nat.le_of_add_left_le hdepth)
    have hfields := @trees?_fieldNodes fields (fun entry hentry => hproper.of_field hentry) depth
      (Nat.le_of_succ_le_succ hdepth) hproper.self [] (by simp)
    rw [node, StreamNode.tree?, hfields]
    rfl
termination_by structural value

theorem trees?_itemNodes {items : List Value} (hproper : ∀ item ∈ items, item.Proper) {depth : Nat}
    (hdepth : itemNesting items ≤ depth) (done : List Tree) :
    (itemNodes items).trees? depth done = .ok (done.reverse ++ itemTrees items) := by
  match items with
  | [] => simp [itemNodes, StreamItems.trees?, itemTrees]
  | item :: rest =>
    obtain ⟨hitem, hrest⟩ := Nat.max_le.mp hdepth
    obtain ⟨hproperItem, hproperRest⟩ := List.forall_mem_cons.mp hproper
    rw [itemNodes, StreamItems.trees?, tree?_node hproperItem hitem, Outcome.ok_bind,
      trees?_itemNodes hproperRest hrest, itemTrees]
    simp
termination_by structural items

-- the keys to come have to differ from those before them, as `hnew` says, and from each other
theorem trees?_fieldNodes {fields : List (String × Value)}
    (hproper : ∀ entry ∈ fields, entry.2.Proper) {depth : Nat}
    (hdepth : fieldNesting fields ≤ depth) (hdistinct : (fields.map Prod.fst).Nodup)
    (done : List (Tree × Tree))
    (hnew : ∀ key ∈ fields.map Prod.fst, ∀ entry ∈ done, entry.1.sameAs (.str key) = false) :
    (fieldNodes fields).trees? depth done = .ok (done.reverse ++ fieldTrees fields) := by
  match fields with
  | [] => simp [fieldNodes, StreamEntries.trees?, fieldTrees]
  | (key, value) :: rest =>
    obtain ⟨hvalue, hrest⟩ := Nat.max_le.mp hdepth
    obtain ⟨hproperValue, hproperRest⟩ := List.forall_mem_cons.mp hproper
    obtain ⟨hkey, hothers⟩ := List.nodup_cons.mp hdistinct
    have hfirst : done.any (fun (other, _) => other.sameAs (.str key)) = false := by
      simpa using hnew key (by simp)
    have hlater : ∀ other ∈ rest.map Prod.fst, ∀ entry ∈ (Tree.str key, value.tree) :: done,
        entry.1.sameAs (.str other) = false := by
      intro other hother entry hentry
      rcases List.mem_cons.mp hentry with rfl | hdone
      · have hne : key ≠ other := fun heq => hkey (heq ▸ hother)
        simpa [Tree.sameAs] using hne
      · exact hnew other (List.mem_cons_of_mem _ hother) entry hdone
    rw [fieldNodes, StreamEntries.trees?, shownTree_str, Outcome.ok_bind, hfirst,
      if_neg Bool.false_ne_true, tree?_node hproperValue hvalue, Outcome.ok_bind,
      trees?_fieldNodes hproperRest hrest hothers _ hlater, fieldTrees]
    simp
termination_by structural fields

end

mutual

/-- The tree of a value has the events of the value. -/
theorem events_tree (value : Value) : value.tree.events = .ok value.events := by
  match value with
  | null => rfl
  | bool flag => rfl
  | int number => rw [tree, Tree.events, if_pos (fitsInt64_toInt number), events]
  | float number => rfl
  | str text => rfl
  | seq items =>
    rw [tree, Tree.events, events_itemTrees]
    rfl
  | map ⟨fields⟩ =>
    rw [tree, Tree.events, events_fieldTrees]
    rfl
termination_by structural value

theorem events_itemTrees (items : List Value) :
    Tree.itemEvents (itemTrees items) = .ok (itemEvents items) := by
  match items with
  | [] => rfl
  | item :: rest =>
    rw [itemTrees, Tree.itemEvents, events_tree, events_itemTrees]
    rfl
termination_by structural items

theorem events_fieldTrees (fields : List (String × Value)) :
    Tree.entryEvents (fieldTrees fields) = .ok (fieldEvents fields) := by
  match fields with
  | [] => rfl
  | (key, value) :: rest =>
    rw [fieldTrees, Tree.entryEvents, Tree.keyText?, events_tree, events_fieldTrees]
    rfl
termination_by structural fields

end

/-- The tree of a value denotes the value. -/
theorem ofTree?_tree {value : Value} (hproper : value.Proper) :
    ofTree? value.tree = .ok value := by
  rw [ofTree?, events_tree]
  exact ofEvents?_of_withoutComments hproper value.withoutComments_events

/-! ## The text of a value -/

/-- The stream of a value alone is written as a text that denotes the value. -/
theorem ofText_blockText {value : Value} (hproper : value.Proper)
    (hdepth : value.nesting ≤ Yaml.maxDepth) :
    ∃ text, blockText (.streamStart :: value.events ++ [.streamEnd]) = .ok text ∧
      ofText? text = .ok value := by
  let stream : EventStream := ⟨[], some value.node, []⟩
  have hevents : stream.events = .streamStart :: value.events ++ [.streamEnd] := by
    simp [stream, EventStream.events, commentEvents, events_node]
  have hvalid : stream.Valid := by
    rintro node ⟨⟩
    exact value.valid_node
  have hquiet : Quiet stream.events := by
    have hvalue := value.quiet_events
    rw [hevents, List.cons_append, quiet_cons, quiet_append]
    exact ⟨by simp, hvalue, by simp [Quiet]⟩
  refine ⟨stream.text, ?_, ?_⟩
  · rw [← hevents]
    exact stream.blockText_events hvalid
  · rw [(EventStream.ofText_text hvalid hquiet rfl).1 value.tree
      (tree?_node hproper hdepth), ofTree?_tree hproper]

end Value

/-- Without comments, an element for texts writes any document as it is: the text denotes the
document again, provided that its mappings have distinct keys and that its collections nest no
deeper than a reader follows them. -/
theorem Element.ofText_dump {value : Value} (hproper : value.Proper)
    (hdepth : value.nesting ≤ 128) (info : Info) {opts : DumpOptions}
    (hcomments : opts.showComments = false) :
    ∃ text, (Element.scalar info .str).dump opts (some value) = .ok text ∧
      Value.ofText? text = .ok value := by
  obtain ⟨text, htext, hread⟩ := Value.ofText_blockText hproper hdepth
  have hdocument : (Element.scalar info .str).document opts (some value) =
      .streamStart :: value.events ++ [.streamEnd] := by
    rw [document, commentEvents, hcomments, if_neg Bool.false_ne_true, ite_self]
    rfl
  exact ⟨text, by rw [dump, hdocument, htext]; rfl, hread⟩

/-- A document whose texts are all but plain: they look like other scalars, hold signs, white space
and line ends, or are empty, as values, as items and as keys. -/
def oddDocument : Value :=
  .map ⟨[("a: b # c", .str "- x\n\n"), ("", .seq [.str "", .null, .str "null", .seq []]),
    ("true", .map ⟨[("\u0085 \u2028", .float 1.5), ("0x1F", .int (-3)), ("\r", .emptyMap)]⟩),
    ("😀", .seq [.seq [.bool false, .str " é\t"], .str "1e3"])]⟩

theorem ofText_dump_oddDocument :
    ∃ text, (Element.scalar { help? := some "Anything." } .str).dump { showComments := false }
        (some oddDocument) = .ok text ∧
      Value.ofText? text = .ok oddDocument := by
  have hproper : oddDocument.Proper := by
    simp [oddDocument, Value.Proper, Value.Everywhere.map_iff, Value.Everywhere.seq_iff,
      Value.Everywhere.scalar_iff, Value.HasDistinctKeys, OrderedMap.Distinct, OrderedMap.keys,
      Value.emptyMap, OrderedMap.empty]
  exact Element.ofText_dump hproper (by decide) _ rfl

end ConfigSchema
