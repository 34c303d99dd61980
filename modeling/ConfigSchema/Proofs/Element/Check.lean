import ConfigSchema.Element.Check
import ConfigSchema.Proofs.Outcome
import ConfigSchema.Proofs.Text.Case
import Mathlib

/-!
# What a consistent schema gives

A schema that passes the check passes it in all its parts, and the children of its sections have
distinct names that no change of case touches.

## Main definitions

- `Element.Checked` — an element passes the check at some place
- `Element.checkParts` — the part of the check that leads to the elements below

## Main statements

- `KeyCase.apply_apply` — folding a key twice is folding it once
- `Element.checkAt_eq_ok_iff` — what is checked of an element
- `Element.any_isNamed_iff` — the declared keys of a section are the names of its children
-/

namespace ConfigSchema

/-! ## Names are in lower case -/

namespace Text

/-- The runs of the lower case mapping meet ASCII in its capital letters only. -/
theorem lowerRuns_ascii : ∀ run ∈ lowerRuns, 128 ≤ run.first ∨ 65 ≤ run.first ∧ run.last ≤ 90 := by
  decide +kernel

/-- A character of ASCII that is no capital letter is in lower case. -/
theorem lowerChar_of_ascii {c : Char} (hascii : c.toNat < 128)
    (hsmall : c.toNat < 65 ∨ 90 < c.toNat) : lowerChar c = [c] := by
  have hrun : lowerRuns.findSome? (·.shift? c.toNat) = none := by
    rw [List.findSome?_eq_none_iff]
    intro run hrun
    have houtside : ¬(run.first ≤ c.toNat ∧ c.toNat ≤ run.last) := by
      rcases lowerRuns_ascii run hrun with hlarge | hcapital <;> omega
    simp only [CaseRun.shift?, Bool.and_eq_true, decide_eq_true_eq]
    exact if_neg fun h => houtside h.1
  have hexpansion : lowerExpansions.lookup c.toNat = none := by
    rw [lowerExpansions, List.lookup_cons, (by simp; omega : (c.toNat == 304) = false)]
    rfl
  rw [lowerChar, mapCase, hrun, hexpansion]

end Text

/-- The characters of a name are small letters, digits and underscores. -/
theorem mem_of_isName {text : String} (h : isName text) {c : Char} (hc : c ∈ text.toList) :
    c.isLower ∨ c.isDigit ∨ c = '_' := by
  unfold isName at h
  split at h
  · cases h
  · rename_i first rest htext
    rw [Bool.and_eq_true, List.all_eq_true] at h
    rw [htext] at hc
    rcases List.mem_cons.mp hc with rfl | hmem
    · exact .inl h.1
    · simpa [or_assoc] using h.2 c hmem

/-- A name is in lower case. -/
theorem toLower_of_isName {text : String} (h : isName text) : Text.toLower text = text := by
  have hchars : ∀ c ∈ text.toList, Text.lowerChar c = [c] := by
    intro c hc
    have hascii : c.toNat < 128 ∧ (c.toNat < 65 ∨ 90 < c.toNat) := by
      rcases mem_of_isName h hc with hlower | hdigit | rfl
      · have hrange : 97 ≤ c.toNat ∧ c.toNat ≤ 122 := by
          simpa [Char.isLower, UInt32.le_iff_toNat_le] using hlower
        omega
      · have hrange : 48 ≤ c.toNat ∧ c.toNat ≤ 57 := by
          simpa [Char.isDigit, UInt32.le_iff_toNat_le] using hdigit
        omega
      · decide
    exact Text.lowerChar_of_ascii hascii.1 hascii.2
  rw [Text.toLower, Text.lowerFrom_of_lowerChar hchars, String.ofList_toList]

/-- The case into which a section may bring its keys does not touch names. -/
theorem KeyCase.apply_of_isName {keyCase : KeyCase} (hcase : keyCase ≠ .upper) {text : String}
    (h : isName text) : keyCase.apply text = text := by
  cases keyCase with
  | mixed => rfl
  | lower => exact toLower_of_isName h
  | upper => exact absurd rfl hcase

/-- Folding a key twice is folding it once. -/
theorem KeyCase.apply_apply (keyCase : KeyCase) (key : String) :
    keyCase.apply (keyCase.apply key) = keyCase.apply key := by
  cases keyCase with
  | mixed => rfl
  | lower => exact Text.toLower_toLower key
  | upper => exact Text.toUpper_toUpper key

/-! ## Parts of a consistent schema -/

namespace Element

/-- The element passes the check, at the root or at some place in a schema. -/
def Checked (element : Element) : Prop :=
  ∃ path inSection, element.checkAt path inSection = .ok ()

/-- Checks what an element is made of. -/
def checkParts (element : Element) (path : String) (inSection : Bool) : Except Failure Unit :=
  let refuse (fault : SchemaFault) : Except Failure Unit := .error (.schema path fault)
  match element with
  | scalar _ (.pattern p) => if p.regex?.isNone then refuse .invalidPattern else .ok ()
  | scalar _ _ | code _ => .ok ()
  | keyed info children _ =>
      if info.keyCase == .upper then refuse .upperKeyCase else checkChildren children path []
  | category _ item _ defaultKey? =>
      if defaultKey?.isSome && !item.isKeyed then refuse .misplacedDefaultKey
      else item.checkAt (Path.join path "*") false
  | list _ item minLength? maxLength? =>
      match minLength?, maxLength? with
      | some least, some most =>
          if least > most then refuse (.emptyLengthRange least most)
          else item.checkAt (Path.join path "*") false
      | _, _ => item.checkAt (Path.join path "*") false
  | derived _ _ => if inSection then .ok () else refuse .misplacedDerived

/-- An element is checked in four steps. -/
theorem checkAt_eq (element : Element) (path : String) (inSection : Bool) :
    element.checkAt path inSection = (do
      element.checkInfo path
      element.checkParts path inSection
      element.checkChoices path
      element.checkDefault path) := by
  rw [checkAt.eq_def]
  refine bind_congr fun _ => ?_
  cases element with
  | scalar info type =>
    cases type with
    | pattern p =>
      dsimp only [checkParts]
      split <;> rfl
    | _ => rfl
  | code info => rfl
  | keyed info children extraKeys =>
    dsimp only [checkParts]
    split <;> rfl
  | category info item minEntries defaultKey? =>
    dsimp only [checkParts]
    split <;> rfl
  | list info item minLength? maxLength? =>
    match minLength?, maxLength? with
    | some least, some most =>
      dsimp only [checkParts]
      split <;> rfl
    | some _, none | none, _ => rfl
  | derived info resolve => cases inSection <;> rfl

theorem checkAt_eq_ok_iff {element : Element} {path : String} {inSection : Bool} :
    element.checkAt path inSection = .ok () ↔
      element.checkInfo path = .ok () ∧ element.checkParts path inSection = .ok () ∧
        element.checkChoices path = .ok () ∧ element.checkDefault path = .ok () := by
  rw [checkAt_eq]
  constructor
  · intro h
    obtain ⟨_, hinfo, h⟩ := Outcome.bind_eq_ok.mp h
    obtain ⟨_, hparts, h⟩ := Outcome.bind_eq_ok.mp h
    obtain ⟨_, hchoices, hdefault⟩ := Outcome.bind_eq_ok.mp h
    exact ⟨hinfo, hparts, hchoices, hdefault⟩
  · rintro ⟨hinfo, hparts, hchoices, hdefault⟩
    rw [hinfo, hparts, hchoices, hdefault]
    rfl

theorem checkInfo_of_checkAt {element : Element} {path : String} {inSection : Bool}
    (h : element.checkAt path inSection = .ok ()) : element.checkInfo path = .ok () :=
  (checkAt_eq_ok_iff.mp h).1

/-- A consistent element that has a name has a valid one. -/
theorem isName_of_checkInfo {element : Element} {path name : String}
    (h : element.checkInfo path = .ok ()) (hname : element.info.name? = some name) :
    isName name := by
  by_contra hinvalid
  have hfilter : element.info.name?.filter (!isName ·) = some name := by
    simp [hname, Option.filter, hinvalid]
  simp [checkInfo, hfilter] at h

/-- A consistent section does not turn its keys into capitals, and its children are consistent. -/
theorem checkAt_keyed {info : Info} {children : List Element} {extraKeys : Bool} {path : String}
    {inSection : Bool} (h : (keyed info children extraKeys).checkAt path inSection = .ok ()) :
    info.keyCase ≠ .upper ∧ checkChildren children path [] = .ok () := by
  have hparts := (checkAt_eq_ok_iff.mp h).2.1
  rw [checkParts] at hparts
  split at hparts
  · cases hparts
  · rename_i hcase
    exact ⟨by simpa using hcase, hparts⟩

/-- The entries of a consistent category have a consistent element. -/
theorem checkAt_category {info : Info} {item : Element} {minEntries : Nat}
    {defaultKey? : Option String} {path : String} {inSection : Bool}
    (h : (category info item minEntries defaultKey?).checkAt path inSection = .ok ()) :
    item.checkAt (Path.join path "*") false = .ok () := by
  have hparts := (checkAt_eq_ok_iff.mp h).2.1
  rw [checkParts] at hparts
  split at hparts
  · cases hparts
  · exact hparts

/-- Only sections share defaults. -/
theorem isKeyed_of_checkAt {info : Info} {item : Element} {minEntries : Nat} {defaultKey : String}
    {path : String} {inSection : Bool}
    (h : (category info item minEntries (some defaultKey)).checkAt path inSection = .ok ()) :
    item.isKeyed := by
  have hparts := (checkAt_eq_ok_iff.mp h).2.1
  rw [checkParts] at hparts
  split at hparts
  · cases hparts
  · rename_i hkeyed
    simpa using hkeyed

/-- The items of a consistent list have a consistent element. -/
theorem checkAt_list {info : Info} {item : Element} {minLength? maxLength? : Option Nat}
    {path : String} {inSection : Bool}
    (h : (list info item minLength? maxLength?).checkAt path inSection = .ok ()) :
    item.checkAt (Path.join path "*") false = .ok () := by
  have hparts := (checkAt_eq_ok_iff.mp h).2.1
  unfold checkParts at hparts
  dsimp only at hparts
  split at hparts
  · split at hparts
    · cases hparts
    · exact hparts
  · exact hparts

/-- A child passes the check under a name that none before it has. -/
theorem checkChildren_cons_eq_ok_iff {child : Element} {rest : List Element} {path : String}
    {seen : List String} :
    checkChildren (child :: rest) path seen = .ok () ↔
      ∃ name, child.info.name? = some name ∧ name ∉ seen ∧
        child.checkAt (Path.join path name) true = .ok () ∧
        checkChildren rest path (name :: seen) = .ok () := by
  rw [checkChildren]
  cases hname : child.info.name? with
  | none => simp
  | some name =>
    dsimp only
    by_cases hseen : name ∈ seen
    · rw [if_pos (by simpa using hseen)]
      constructor
      · intro h
        cases h
      · rintro ⟨_, ⟨⟩, hfresh, -⟩
        exact absurd hseen hfresh
    · rw [if_neg (by simpa using hseen)]
      constructor
      · intro h
        obtain ⟨_, hchild, hrest⟩ := Outcome.bind_eq_ok.mp h
        exact ⟨name, rfl, hseen, hchild, hrest⟩
      · rintro ⟨_, ⟨⟩, -, hchild, hrest⟩
        exact Outcome.bind_eq_ok.mpr ⟨_, hchild, hrest⟩

/-- The children of a consistent section are consistent and stand under distinct names. -/
theorem checkChildren_eq_ok {children : List Element} {path : String} {seen : List String}
    (h : checkChildren children path seen = .ok ()) :
    (children.map key).Nodup ∧
      ∀ child ∈ children, child.key ∉ seen ∧ child.info.name? = some child.key ∧
        isName child.key ∧ child.Checked := by
  induction children generalizing seen with
  | nil => simp
  | cons child rest ih =>
    obtain ⟨name, hname, hseen, hchild, hrest⟩ := checkChildren_cons_eq_ok_iff.mp h
    have hkey : child.key = name := by simp [key, hname]
    obtain ⟨hnodup, hall⟩ := ih hrest
    have hfresh : child.key ∉ rest.map key := by
      intro hmem
      obtain ⟨other, hother, heq⟩ := List.mem_map.mp hmem
      exact (hall other hother).1 (by simp [heq, hkey])
    refine ⟨List.nodup_cons.mpr ⟨hfresh, hnodup⟩, ?_⟩
    intro other hother
    rcases List.mem_cons.mp hother with rfl | hmem
    · refine ⟨by rwa [hkey], by rw [hkey, hname], ?_, _, _, hchild⟩
      rw [hkey]
      exact isName_of_checkInfo (checkInfo_of_checkAt hchild) hname
    · obtain ⟨hother, hrest⟩ := hall other hmem
      exact ⟨fun hin => hother (by simp [hin]), hrest⟩

/-- An element that is consistent on its own, outside of sections, is not computed. -/
theorem not_derived_of_checkAt {element : Element} {path : String}
    (h : element.checkAt path false = .ok ()) : element.isDerived = false := by
  cases element with
  | derived info resolve =>
    have hparts := (checkAt_eq_ok_iff.mp h).2.1
    cases hparts
  | _ => rfl

/-- The last thing that is checked of an element is its default. -/
theorem checkDefault_of_checkAt {element : Element} {path : String} {inSection : Bool}
    (h : element.checkAt path inSection = .ok ()) : element.checkDefault path = .ok () :=
  (checkAt_eq_ok_iff.mp h).2.2.2

namespace Checked

variable {info : Info}

/-- The default of a consistent element is valid as a layer. -/
theorem valid_default {element : Element} (h : element.Checked) {default : Value}
    (hdefault : element.info.default? = some default) :
    ∃ path layer, element.validateAt .layer path default = .ok layer := by
  obtain ⟨path, inSection, h⟩ := h
  replace h := checkDefault_of_checkAt h
  simp only [checkDefault, hdefault] at h
  split at h
  · cases h
  · split at h
    · exact ⟨path, _, ‹_›⟩
    · cases h

theorem keyCase {children : List Element} {extraKeys : Bool}
    (h : (keyed info children extraKeys).Checked) : info.keyCase ≠ .upper := by
  obtain ⟨path, inSection, h⟩ := h
  exact (checkAt_keyed h).1

theorem nodup_keys {children : List Element} {extraKeys : Bool}
    (h : (keyed info children extraKeys).Checked) : (children.map key).Nodup := by
  obtain ⟨path, inSection, h⟩ := h
  exact (checkChildren_eq_ok (checkAt_keyed h).2).1

theorem child {children : List Element} {extraKeys : Bool}
    (h : (keyed info children extraKeys).Checked) {child : Element} (hchild : child ∈ children) :
    child.info.name? = some child.key ∧ isName child.key ∧ child.Checked := by
  obtain ⟨path, inSection, h⟩ := h
  exact ((checkChildren_eq_ok (checkAt_keyed h).2).2 child hchild).2

theorem key_ne_empty {children : List Element} {extraKeys : Bool}
    (h : (keyed info children extraKeys).Checked) {child : Element} (hchild : child ∈ children) :
    child.key ≠ "" := by
  intro hempty
  have hname := (h.child hchild).2.1
  rw [hempty] at hname
  exact absurd hname (by decide)

/-- Sections do not fold the names of their children. -/
theorem apply_key {children : List Element} {extraKeys : Bool}
    (h : (keyed info children extraKeys).Checked) {child : Element} (hchild : child ∈ children) :
    info.keyCase.apply child.key = child.key :=
  KeyCase.apply_of_isName h.keyCase (h.child hchild).2.1

theorem entry {item : Element} {minEntries : Nat} {defaultKey? : Option String}
    (h : (category info item minEntries defaultKey?).Checked) : item.Checked := by
  obtain ⟨path, inSection, h⟩ := h
  exact ⟨_, _, checkAt_category h⟩

theorem isKeyed {item : Element} {minEntries : Nat} {defaultKey : String}
    (h : (category info item minEntries (some defaultKey)).Checked) : item.isKeyed := by
  obtain ⟨path, inSection, h⟩ := h
  exact isKeyed_of_checkAt h

theorem item {item : Element} {minLength? maxLength? : Option Nat}
    (h : (list info item minLength? maxLength?).Checked) : item.Checked := by
  obtain ⟨path, inSection, h⟩ := h
  exact ⟨_, _, checkAt_list h⟩

/-- Entries of a category are not computed. -/
theorem entry_not_derived {item : Element} {minEntries : Nat} {defaultKey? : Option String}
    (h : (category info item minEntries defaultKey?).Checked) : item.isDerived = false := by
  obtain ⟨path, inSection, h⟩ := h
  exact not_derived_of_checkAt (checkAt_category h)

/-- Items of a list are not computed. -/
theorem item_not_derived {item : Element} {minLength? maxLength? : Option Nat}
    (h : (list info item minLength? maxLength?).Checked) : item.isDerived = false := by
  obtain ⟨path, inSection, h⟩ := h
  exact not_derived_of_checkAt (checkAt_list h)

end Checked

/-- In a consistent section a key is declared exactly if it is the name of a child. -/
theorem any_isNamed_iff {info : Info} {children : List Element} {extraKeys : Bool}
    (h : (keyed info children extraKeys).Checked) (name : String) :
    children.any (·.isNamed name) ↔ name ∈ children.map key := by
  simp only [List.any_eq_true, List.mem_map, isNamed, beq_iff_eq]
  constructor
  · rintro ⟨child, hchild, hname⟩
    refine ⟨child, hchild, ?_⟩
    simp [key, hname]
  · rintro ⟨child, hchild, rfl⟩
    exact ⟨child, hchild, (h.child hchild).1⟩

end Element

end ConfigSchema
