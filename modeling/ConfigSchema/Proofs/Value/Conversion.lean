import ConfigSchema.Proofs.Event.Lexed
import ConfigSchema.Proofs.Value.Grammar
import ConfigSchema.Proofs.Yaml.Tree

/-!
# Texts as values

A text is read by way of events: its tree is written as events, and a value is built from these.
What comes out is what a direct conversion of the tree gives. Nothing is lost on the way, but not
all trees come through: integers have to fit, keys have to be scalars, and two keys of a mapping
must differ in their texts. A text whose tree does not come through is refused, without a place in
it.

## Main definitions

- `Yaml.Tree.value` — the direct conversion of a tree
- `Yaml.Tree.Convertible` — what comes through

## Main statements

- `Yaml.Tree.events_eq_ok_iff` — which trees have events: those of the converted tree
- `Value.exists_ofEvents?_of_not_proper` — the events of a value with a repeated key are refused
- `Value.ofText_conversion` — the value of a text is the conversion of its tree
-/

namespace ConfigSchema

open Yaml (Tree)

/-- The fault has no place in a text. -/
def ParseFault.Placeless (fault : ParseFault) : Prop := fault.position? = none

namespace Yaml.Tree

/-! ## Keys -/

/-- The tree is a sequence or a mapping, whatever tags it stands under. -/
def IsCollection : Tree → Prop
  | seq _ => True
  | map _ => True
  | tagged _ content => content.IsCollection
  | _ => False
termination_by structural tree => tree

/-- The text of a scalar as a key, whatever tags it stands under. -/
def keyName : Tree → String
  | null => "null"
  | bool flag => boolText flag
  | int number => toString number
  | float number => keyFloat.text number
  | str text => text
  | seq _ => ""
  | map _ => ""
  | tagged _ content => content.keyName
termination_by structural tree => tree

/-- Scalars are keys, and collections are none. -/
theorem keyText?_eq_ok_iff (key : Tree) {text : String} :
    key.keyText? = .ok text ↔ ¬key.IsCollection ∧ text = key.keyName := by
  induction key using Tree.induction with
  | tagged name content ih => exact ih
  | seq | map => simp [keyText?, IsCollection]
  | _ => simp [keyText?, IsCollection, keyName, boolText, eq_comm]

/-! ## The conversion -/

mutual

/-- The value that a tree stands for. Tags are left out, and keys are taken by their text. -/
def value : Tree → Value
  | null => .null
  | bool flag => .bool flag
  | int number => .int (.ofInt number)
  | float number => .float number
  | str text => .str text
  | seq items => .seq (itemValues items)
  | map entries => .map ⟨entryFields entries⟩
  | tagged _ content => content.value
termination_by structural tree => tree

/-- The values of items, in their order. -/
def itemValues : List Tree → List Value
  | [] => []
  | item :: rest => item.value :: itemValues rest
termination_by structural items => items

/-- The fields that entries give, in their order. -/
def entryFields : List (Tree × Tree) → List (String × Value)
  | [] => []
  | (key, value) :: rest => (key.keyName, value.value) :: entryFields rest
termination_by structural entries => entries

end

theorem itemValues_eq_map (items : List Tree) : itemValues items = items.map value := by
  induction items with
  | nil => rfl
  | cons item rest ih => rw [itemValues, ih, List.map_cons]

theorem entryFields_eq_map (entries : List (Tree × Tree)) :
    entryFields entries = entries.map fun entry => (entry.1.keyName, entry.2.value) := by
  induction entries with
  | nil => rfl
  | cons entry rest ih => rw [entryFields, ih, List.map_cons]

/-- The tree, if it is an integer, is not above those of 64 bits with a sign. If it is a mapping,
its keys are scalars with distinct texts. -/
def FitsValue : Tree → Prop
  | int number => number ≤ Int64.maxValue.toInt
  | map entries =>
      (∀ entry ∈ entries, ¬entry.1.IsCollection) ∧ (entries.map (·.1.keyName)).Nodup
  | _ => True

/-- The tree comes through as a value. Keys are asked for their own kind and text alone. -/
def Convertible (tree : Tree) : Prop := tree.Everywhere FitsValue

/-! ## Events -/

/-- The tree, if it is an integer, fits. If it is a mapping, its keys are scalars. -/
def Writable : Tree → Prop
  | int number => fitsInt64 number
  | map entries => ∀ entry ∈ entries, ¬entry.1.IsCollection
  | _ => True

/-- The texts of the keys are distinct, if the tree is a mapping. -/
def HasDistinctNames : Tree → Prop
  | map entries => (entries.map (·.1.keyName)).Nodup
  | _ => True

/-- No integer of a text is below those that fit, so one bound is left. -/
theorem fitsValue_iff {tree : Tree} (h : tree.FitsWord) :
    tree.FitsValue ↔ tree.Writable ∧ tree.HasDistinctNames := by
  cases tree with
  | int number =>
    have hlow : Int64.minValue.toInt ≤ number := h.1
    show number ≤ Int64.maxValue.toInt ↔ fitsInt64 number = true ∧ True
    rw [fitsInt64, Bool.and_eq_true, decide_eq_true_eq, decide_eq_true_eq, and_true]
    exact (and_iff_right hlow).symm
  | map entries => rfl
  | _ => simp [FitsValue, Writable, HasDistinctNames]

theorem convertible_iff {tree : Tree} (h : tree.Everywhere FitsWord) :
    tree.Convertible ↔ tree.Everywhere Writable ∧ tree.Everywhere HasDistinctNames := by
  rw [← Everywhere.and_iff]
  exact forall₂_congr fun part hpart => fitsValue_iff (h part hpart)

/-- An integer that fits is taken as it is. -/
theorem toInt_ofInt_of_fits {number : Int} (h : fitsInt64 number) :
    (Int64.ofInt number).toInt = number := by
  rw [fitsInt64, Bool.and_eq_true, decide_eq_true_eq, decide_eq_true_eq] at h
  rw [Int64.toInt_ofInt]
  exact Int.bmod_eq_of_le (by exact h.1) (by exact Int.lt_add_one_of_le h.2)

mutual

/-- The trees with events are those whose integers fit and whose keys are scalars. The events are
those of the value. -/
theorem events_eq_ok_iff (tree : Tree) {events : List Event} :
    tree.events = .ok events ↔ tree.Everywhere Writable ∧ events = tree.value.events := by
  match tree with
  | null | bool _ | float _ | str _ =>
    simp [Tree.events, Everywhere.scalar_iff, Writable, value, Value.events, boolText, eq_comm]
  | int number =>
    rw [Everywhere.scalar_iff (by simp) (by simp) (by simp), Writable, Tree.events, value,
      Value.events]
    split
    · rename_i hfits
      simp [hfits, toInt_ofInt_of_fits hfits, eq_comm]
    · rename_i hfits
      simp [hfits]
  | seq items =>
    rw [Tree.events, Outcome.bind_eq_ok, Everywhere.seq_iff, value, Value.events]
    simp only [itemEvents_eq_ok_iff items, Outcome.pure_eq_ok]
    constructor
    · rintro ⟨_, ⟨hitems, rfl⟩, rfl⟩
      exact ⟨⟨trivial, hitems⟩, rfl⟩
    · rintro ⟨⟨-, hitems⟩, rfl⟩
      exact ⟨_, ⟨hitems, rfl⟩, rfl⟩
  | map entries =>
    rw [Tree.events, Outcome.bind_eq_ok, Everywhere.map_iff, value, Value.events]
    simp only [entryEvents_eq_ok_iff entries, Outcome.pure_eq_ok]
    constructor
    · rintro ⟨_, ⟨hkeys, hvalues, rfl⟩, rfl⟩
      exact ⟨⟨hkeys, hvalues⟩, rfl⟩
    · rintro ⟨⟨hkeys, hvalues⟩, rfl⟩
      exact ⟨_, ⟨hkeys, hvalues, rfl⟩, rfl⟩
  | tagged name content =>
    rw [Everywhere.tagged_iff, Tree.events, value, events_eq_ok_iff content]
    simp [Writable]
termination_by structural tree

theorem itemEvents_eq_ok_iff (items : List Tree) {events : List Event} :
    itemEvents items = .ok events ↔
      (∀ item ∈ items, item.Everywhere Writable) ∧
        events = Value.itemEvents (itemValues items) := by
  match items with
  | [] => simp [itemEvents, itemValues, Value.itemEvents, eq_comm]
  | item :: rest =>
    simp only [itemEvents, Outcome.bind_eq_ok, events_eq_ok_iff item, itemEvents_eq_ok_iff rest,
      Outcome.pure_eq_ok, List.forall_mem_cons]
    constructor
    · rintro ⟨_, ⟨hitem, rfl⟩, _, ⟨hrest, rfl⟩, rfl⟩
      exact ⟨⟨hitem, hrest⟩, rfl⟩
    · rintro ⟨⟨hitem, hrest⟩, rfl⟩
      exact ⟨_, ⟨hitem, rfl⟩, _, ⟨hrest, rfl⟩, rfl⟩
termination_by structural items

theorem entryEvents_eq_ok_iff (entries : List (Tree × Tree)) {events : List Event} :
    entryEvents entries = .ok events ↔
      (∀ entry ∈ entries, ¬entry.1.IsCollection) ∧
        (∀ entry ∈ entries, entry.2.Everywhere Writable) ∧
        events = Value.fieldEvents (entryFields entries) := by
  match entries with
  | [] => simp [entryEvents, entryFields, Value.fieldEvents, eq_comm]
  | (key, value) :: rest =>
    simp only [entryEvents, Outcome.bind_eq_ok, keyText?_eq_ok_iff, events_eq_ok_iff value,
      entryEvents_eq_ok_iff rest, Outcome.pure_eq_ok, List.forall_mem_cons]
    constructor
    · rintro ⟨_, ⟨hkey, rfl⟩, _, ⟨hvalue, rfl⟩, _, ⟨hkeys, hvalues, rfl⟩, rfl⟩
      exact ⟨⟨hkey, hkeys⟩, ⟨hvalue, hvalues⟩, rfl⟩
    · rintro ⟨⟨hkey, hkeys⟩, ⟨hvalue, hvalues⟩, rfl⟩
      exact ⟨_, ⟨hkey, rfl⟩, _, ⟨hvalue, rfl⟩, _, ⟨hkeys, hvalues, rfl⟩, rfl⟩
termination_by structural entries

end

theorem placeless_keyText? (key : Tree) : Outcome.FailsWith ParseFault.Placeless key.keyText? := by
  induction key using Tree.induction with
  | tagged name content ih => exact ih
  | seq | map => exact .error rfl
  | _ => exact .ok _

mutual

/-- A tree without events is refused without a place. -/
theorem placeless_events (tree : Tree) : Outcome.FailsWith ParseFault.Placeless tree.events := by
  match tree with
  | null | bool _ | float _ | str _ => exact .ok _
  | int number =>
    rw [Tree.events]
    split
    · exact .ok _
    · exact .error rfl
  | seq items => exact .bind (placeless_itemEvents items) fun _ => .ok _
  | map entries => exact .bind (placeless_entryEvents entries) fun _ => .ok _
  | tagged name content => exact placeless_events content
termination_by structural tree

theorem placeless_itemEvents (items : List Tree) :
    Outcome.FailsWith ParseFault.Placeless (itemEvents items) := by
  match items with
  | [] => exact .ok _
  | item :: rest =>
    refine .bind (placeless_events item) fun _ => ?_
    exact .bind (placeless_itemEvents rest) fun _ => .ok _
termination_by structural items

theorem placeless_entryEvents (entries : List (Tree × Tree)) :
    Outcome.FailsWith ParseFault.Placeless (entryEvents entries) := by
  match entries with
  | [] => exact .ok _
  | (key, value) :: rest =>
    refine .bind (placeless_keyText? key) fun _ => ?_
    refine .bind (placeless_events value) fun _ => ?_
    exact .bind (placeless_entryEvents rest) fun _ => .ok _
termination_by structural entries

end

/-- The keys of the mappings in a value are distinct if the texts of the keys in its tree are. -/
theorem proper_value_iff (tree : Tree) : tree.value.Proper ↔ tree.Everywhere HasDistinctNames := by
  induction tree using Tree.induction with
  | seq items ih =>
    rw [value, Value.Proper.seq_iff, Everywhere.seq_iff, itemValues_eq_map, List.forall_mem_map]
    exact (forall₂_congr ih).trans (and_iff_right trivial).symm
  | map entries ih =>
    have hkeys : (⟨entryFields entries⟩ : OrderedMap Value).Distinct ↔
        (Tree.map entries).HasDistinctNames := by
      rw [OrderedMap.Distinct, OrderedMap.keys, entryFields_eq_map, List.map_map]
      rfl
    rw [value, Value.Proper.map_iff, Everywhere.map_iff, hkeys, entryFields_eq_map,
      List.forall_mem_map]
    exact and_congr_right fun _ => forall₂_congr ih
  | tagged name content ih =>
    rw [value, ih, Everywhere.tagged_iff]
    exact (and_iff_right trivial).symm
  | _ =>
    rw [Everywhere.scalar_iff (by simp) (by simp) (by simp)]
    exact iff_of_true (Value.Proper.of_scalar (by simp [value]) (by simp [value])) trivial

end Yaml.Tree

namespace Value

/-! ## Repeated keys -/

/-- The events of a value with distinct keys are taken as this value. -/
theorem takeNode_events {value : Value} (h : value.Proper) {fuel : Nat}
    (hfuel : value.events.length ≤ fuel) (rest : List Event) :
    takeNode fuel (value.events ++ rest) = .ok (value, rest) := by
  have htake := value.node.takeNode_events (readable_node h) fuel
    (by rwa [value.events_node]) rest
  rwa [value.events_node, value_node] at htake

mutual

/-- The events of a value with a repeated key are refused for this key. -/
theorem exists_takeNode_of_not_proper {value : Value} (h : ¬value.Proper) {fuel : Nat}
    (hfuel : value.events.length ≤ fuel) (rest : List Event) :
    ∃ key, takeNode fuel (value.events ++ rest) = .error (.duplicateKey key) := by
  match value with
  | null | bool _ | int _ | float _ | str _ =>
    exact absurd (Proper.of_scalar (by simp) (by simp)) h
  | seq items =>
    simp only [events, List.length_cons, List.length_append, List.cons_append] at hfuel
    obtain ⟨fuel, rfl⟩ := Nat.exists_eq_add_one_of_ne_zero (by omega : fuel ≠ 0)
    obtain ⟨key, hitems⟩ := exists_takeItems_of_not_proper (mt Proper.seq_iff.mpr h)
      (by omega : (itemEvents items).length < fuel) rest
    refine ⟨key, ?_⟩
    rw [takeNode]
    simp [events, dropComments, Event.isComment, hitems]
  | map ⟨fields⟩ =>
    simp only [events, List.length_cons, List.length_append, List.cons_append] at hfuel
    obtain ⟨fuel, rfl⟩ := Nat.exists_eq_add_one_of_ne_zero (by omega : fuel ≠ 0)
    obtain ⟨key, hfields⟩ := @exists_takeFields_of_not_proper fields .empty
      List.nodup_nil (mt Proper.map_iff.mpr h) fuel (by omega) rest
    refine ⟨key, ?_⟩
    rw [takeNode]
    simp [events, dropComments, Event.isComment, hfields]
termination_by structural value

theorem exists_takeItems_of_not_proper {items : List Value} (h : ¬∀ item ∈ items, item.Proper)
    {fuel : Nat} (hfuel : (itemEvents items).length < fuel) (rest : List Event) :
    ∃ key, takeItems fuel (itemEvents items ++ .sequenceEnd :: rest) =
      .error (.duplicateKey key) := by
  obtain ⟨fuel, rfl⟩ := Nat.exists_eq_add_one_of_ne_zero (by omega : fuel ≠ 0)
  match items with
  | [] => simp at h
  | item :: more =>
    have hpos := item.node.length_events_pos
    have hnext := item.node.takeItems_append fuel (itemEvents more ++ .sequenceEnd :: rest)
    rw [item.events_node] at hpos hnext
    simp only [itemEvents, List.length_append] at hfuel
    rw [itemEvents, List.append_assoc, hnext]
    by_cases hitem : item.Proper
    · have hmore : ¬∀ other ∈ more, other.Proper :=
        fun hall => h (List.forall_mem_cons.mpr ⟨hitem, hall⟩)
      obtain ⟨key, hkey⟩ := exists_takeItems_of_not_proper hmore
        (by omega : (itemEvents more).length < fuel) rest
      have htake := takeNode_events hitem (by omega : item.events.length ≤ fuel)
        (itemEvents more ++ .sequenceEnd :: rest)
      exact ⟨key, Outcome.bind_eq_error.mpr (.inr ⟨_, htake,
        Outcome.bind_eq_error.mpr (.inl hkey)⟩)⟩
    · obtain ⟨key, hkey⟩ := exists_takeNode_of_not_proper hitem
        (by omega : item.events.length ≤ fuel) (itemEvents more ++ .sequenceEnd :: rest)
      exact ⟨key, Outcome.bind_eq_error.mpr (.inl hkey)⟩
termination_by structural items

-- the keys in `known` are those that have been taken so far
theorem exists_takeFields_of_not_proper {fields : List (String × Value)}
    {known : OrderedMap Value} (hknown : known.Distinct)
    (h : ¬((known.keys ++ fields.map Prod.fst).Nodup ∧ ∀ field ∈ fields, field.2.Proper))
    {fuel : Nat} (hfuel : (fieldEvents fields).length < fuel) (rest : List Event) :
    ∃ key, takeFields fuel known (fieldEvents fields ++ .mappingEnd :: rest) =
      .error (.duplicateKey key) := by
  obtain ⟨fuel, rfl⟩ := Nat.exists_eq_add_one_of_ne_zero (by omega : fuel ≠ 0)
  match fields with
  | [] => exact absurd ⟨by rwa [List.map_nil, List.append_nil], by simp⟩ h
  | (key, value) :: more =>
    simp only [fieldEvents, List.length_append, List.length_cons] at hfuel
    rw [takeFields]
    simp only [fieldEvents, Event.str, List.cons_append, List.append_assoc, dropComments,
      List.dropWhile_cons, Event.isComment, Bool.false_eq_true, if_false]
    by_cases hkey : key ∈ known.keys
    · exact ⟨key, if_pos ((known.contains_iff key).mpr hkey)⟩
    rw [if_neg (mt (known.contains_iff key).mp hkey)]
    by_cases hvalue : value.Proper
    · have hmore : ¬(((known.insert key value).keys ++ more.map Prod.fst).Nodup ∧
          ∀ field ∈ more, field.2.Proper) := by
        rintro ⟨hdistinct, hmore⟩
        rw [OrderedMap.keys_insert_of_not_mem hkey, List.append_assoc] at hdistinct
        exact h ⟨hdistinct, List.forall_mem_cons.mpr ⟨hvalue, hmore⟩⟩
      obtain ⟨other, hother⟩ := exists_takeFields_of_not_proper
        (OrderedMap.distinct_insert hknown key value) hmore
        (by omega : (fieldEvents more).length < fuel) rest
      have htake := takeNode_events hvalue (by omega : value.events.length ≤ fuel)
        (fieldEvents more ++ .mappingEnd :: rest)
      exact ⟨other, Outcome.bind_eq_error.mpr (.inr ⟨_, htake, hother⟩)⟩
    · obtain ⟨other, hother⟩ := exists_takeNode_of_not_proper hvalue
        (by omega : value.events.length ≤ fuel) (fieldEvents more ++ .mappingEnd :: rest)
      exact ⟨other, Outcome.bind_eq_error.mpr (.inl hother)⟩
termination_by structural fields

end

/-- The events of a value with a repeated key denote nothing, and the fault is this key. -/
theorem exists_ofEvents?_of_not_proper {value : Value} (h : ¬value.Proper) :
    ∃ key, ofEvents? (.streamStart :: value.events ++ [.streamEnd]) =
      .error (.duplicateKey key) := by
  obtain ⟨head, tail, hcons, hstarts⟩ := value.node.events_eq_cons
  have hbody := value.node.dropComments_events [Event.streamEnd]
  rw [value.events_node] at hcons hbody
  have hfuel : value.events.length ≤
      2 * (Event.streamStart :: value.events ++ [Event.streamEnd]).length + 2 := by
    simp only [List.length_cons, List.length_append]
    omega
  obtain ⟨key, hkey⟩ := exists_takeNode_of_not_proper h hfuel [.streamEnd]
  have hstart : dropComments (.streamStart :: value.events ++ [.streamEnd]) =
      .streamStart :: (value.events ++ [.streamEnd]) := rfl
  refine ⟨key, ?_⟩
  rw [ofEvents?, hstart]
  dsimp only
  rw [hbody]
  split
  · -- a node does not begin with the end of the stream
    rename_i heq
    rw [hcons] at heq
    obtain ⟨rfl, -⟩ := List.cons.inj heq
    cases hstarts
  · exact Outcome.bind_eq_error.mpr (.inl hkey)

/-! ## Texts -/

/-- The value of a tree is its conversion if the tree is one that comes through, and otherwise there
is a fault without a place. -/
theorem ofTree?_cases {tree : Tree} (hword : tree.Everywhere Tree.FitsWord) :
    tree.Convertible ∧ ofTree? tree = .ok tree.value ∨
      ¬tree.Convertible ∧ ∃ fault, ofTree? tree = .error fault ∧ fault.position? = none := by
  rw [Tree.convertible_iff hword, ← Tree.proper_value_iff, ofTree?]
  cases hevents : tree.events with
  | error fault =>
    refine .inr ⟨fun h => ?_, fault, rfl, tree.placeless_events fault hevents⟩
    rw [(Tree.events_eq_ok_iff tree).mpr ⟨h.1, rfl⟩] at hevents
    cases hevents
  | ok events =>
    obtain ⟨hwritable, rfl⟩ := (Tree.events_eq_ok_iff tree).mp hevents
    by_cases hproper : tree.value.Proper
    · refine .inl ⟨⟨hwritable, hproper⟩, ?_⟩
      exact ofEvents?_of_withoutComments hproper tree.value.withoutComments_events
    · obtain ⟨key, hkey⟩ := exists_ofEvents?_of_not_proper hproper
      exact .inr ⟨fun h => hproper h.2, _, hkey, rfl⟩

/-- A text with a tree denotes a value exactly if all integers in the tree fit, all its keys are
scalars, and the keys of each mapping have distinct texts. It then denotes the direct conversion of
the tree, and otherwise it is refused without a place. -/
theorem ofText_conversion {text : String} {tree : Tree} (hwhite : Text.isAllWhite text = false)
    (htree : Tree.ofText? text = .ok tree) :
    (∀ value, ofText? text = .ok value ↔ tree.Convertible ∧ value = tree.value) ∧
      (¬tree.Convertible → ∃ fault, ofText? text = .error fault ∧ fault.position? = none) := by
  have hread : ofText? text = ofTree? tree := by
    rw [ofText_eq hwhite, htree]
    rfl
  rw [hread]
  rcases ofTree?_cases (Tree.fitsWord_of_ofText htree) with ⟨hconv, hok⟩ | ⟨hconv, hfault⟩
  · refine ⟨fun value => ?_, fun h => absurd hconv h⟩
    rw [hok, Except.ok.injEq, eq_comm]
    exact (and_iff_right hconv).symm
  · obtain ⟨fault, herror, -⟩ := id hfault
    refine ⟨fun value => ?_, fun _ => hfault⟩
    rw [herror]
    exact iff_of_false (fun h => by cases h) fun h => hconv h.1

/-- A text with tags on a key and on an item, and with keys that are no texts. -/
def taggedText : String := "!kind 7: [!unit 1, x]\n~: -3\n"

/-- The tree of the text. -/
def taggedTree : Tree :=
  .map [(.tagged "kind" (.int 7), .seq [.tagged "unit" (.int 1), .str "x"]), (.null, .int (-3))]

/-- Whether the tree is the one above. Equality of trees is not decided as such, but their form is,
and so are their scalars. -/
def isTaggedTree : Except Yaml.Fault Tree → Bool
  | .ok (.map [(.tagged kind (.int seven), .seq [.tagged unit (.int one), .str x]),
      (.null, .int minusThree)]) =>
      kind == "kind" && seven == 7 && unit == "unit" && one == 1 && x == "x" && minusThree == -3
  | _ => false

theorem ofText_taggedText : Tree.ofText? taggedText = .ok taggedTree := by
  have h : isTaggedTree (Tree.ofText? taggedText) = true := by decide +kernel
  unfold isTaggedTree at h
  split at h
  · rename_i htree
    simp only [Bool.and_eq_true, beq_iff_eq] at h
    obtain ⟨⟨⟨⟨⟨rfl, rfl⟩, rfl⟩, rfl⟩, rfl⟩, rfl⟩ := h
    exact htree
  · cases h

/-- A text with two keys that differ in their types alone. -/
def collidingText : String := "1: a\n\"1\": b\n"

/-- The tree of the text. -/
def collidingTree : Tree := .map [(.int 1, .str "a"), (.str "1", .str "b")]

/-- Whether the tree is the one above. -/
def isCollidingTree : Except Yaml.Fault Tree → Bool
  | .ok (.map [(.int one, .str a), (.str text, .str b)]) =>
      one == 1 && a == "a" && text == "1" && b == "b"
  | _ => false

theorem ofText_collidingText : Tree.ofText? collidingText = .ok collidingTree := by
  have h : isCollidingTree (Tree.ofText? collidingText) = true := by decide +kernel
  unfold isCollidingTree at h
  split at h
  · rename_i htree
    simp only [Bool.and_eq_true, beq_iff_eq] at h
    obtain ⟨⟨⟨rfl, rfl⟩, rfl⟩, rfl⟩ := h
    exact htree
  · cases h

theorem ofText_conversion_taggedText :
    ofText? taggedText =
        .ok (.map ⟨[("7", .seq [.int 1, .str "x"]), ("null", .int (-3))]⟩) ∧
      ∃ fault, ofText? collidingText = .error fault ∧ fault.position? = none := by
  constructor
  · refine ((ofText_conversion (by decide) ofText_taggedText).1 _).mpr ⟨?_, rfl⟩
    simp [Tree.Convertible, taggedTree, Tree.Everywhere.map_iff, Tree.Everywhere.seq_iff,
      Tree.Everywhere.tagged_iff, Tree.Everywhere.scalar_iff, Tree.FitsValue, Tree.IsCollection,
      Tree.keyName]
    decide
  · refine (ofText_conversion (by decide) ofText_collidingText).2 fun h => ?_
    have hdistinct : ["1", "1"].Nodup := h.self.2
    exact absurd hdistinct (by decide)

end Value

end ConfigSchema
