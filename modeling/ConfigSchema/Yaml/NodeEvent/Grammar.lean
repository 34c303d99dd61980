import ConfigSchema.Yaml.NodeEvent
import ConfigSchema.Yaml.Token.Name

/-!
# From tokens to node events

A stack machine reads tokens and emits node events. The stack says what is expected next, the
innermost expectation first; each step answers the top expectation with one event.

## Main definitions

- `Expectation` — what may come next
- `Machine`, `Machine.step` — the stack and the tokens to come, and one event from them
- `DocumentEvents.ofTokens` — the events of the first document
-/

namespace ConfigSchema.Yaml

/-- What a stack machine expects next. -/
inductive Expectation where
  | blockNode
  /-- The content of a document after its start marker, which may be empty. -/
  | documentContent
  | blockSequenceEntry
  /-- An entry of a sequence that stands at the column of the mapping that holds it. -/
  | indentlessEntry
  | blockMappingKey
  | blockMappingValue
  | flowSequenceFirst
  | flowSequenceEntry
  | flowPairKey
  | flowPairValue
  | flowPairEnd
  | flowMappingFirst
  | flowMappingKey
  | flowMappingValue
  | flowMappingNoValue
deriving DecidableEq, Repr

/-- The handles that tags may use, with the text each stands for. -/
abbrev Handles := List (String × Octets)

/-- A stack machine between two events. -/
structure Machine where
  stack : List Expectation
  tokens : List Token

/-- One event and the machine after it. -/
abbrev Step := Except Fault (PlacedEvent String × Machine)

/-- What a machine works with throughout a document. -/
structure Setting where
  handles : Handles
  /-- The fault that ends the tokens. -/
  cut : Fault

/-! ## Nodes -/

/-- An empty plain scalar at a place. -/
def emptyScalar (labels : Labels) (mark : Mark) : PlacedEvent String :=
  ⟨.scalar labels "" true, mark⟩

/-- The tag that a handle and a suffix spell. -/
def resolveTag (setting : Setting) (mark : Mark) (handle : String) (suffix : Octets) :
    Except Fault Octets :=
  if handle.isEmpty then .ok suffix
  else match setting.handles.lookup handle with
    | some lead => .ok (lead ++ suffix)
    | none => .error (.at mark .tagHandleUnknown)

/-- Reads the anchor and the tag of a node, in either order, each at most once. -/
def readLabels (setting : Setting) : List Token → Except Fault (Labels × List Token)
  | ⟨.anchor name, _⟩ :: ⟨.tag handle suffix, mark⟩ :: rest
  | ⟨.tag handle suffix, mark⟩ :: ⟨.anchor name, _⟩ :: rest =>
      match rest with
      | [] => .error setting.cut
      | _ => do
          let tag ← resolveTag setting mark handle suffix
          return (⟨some name, some tag⟩, rest)
  | ⟨.anchor name, _⟩ :: rest =>
      match rest with
      | [] => .error setting.cut
      | _ => return (⟨some name, none⟩, rest)
  | ⟨.tag handle suffix, mark⟩ :: rest =>
      match rest with
      | [] => .error setting.cut
      | _ => do
          let tag ← resolveTag setting mark handle suffix
          return (⟨none, some tag⟩, rest)
  | tokens => return ({}, tokens)

/-- Answers the expectation of a node; `stack` holds the expectations after it. Sequence entries at
the column of the enclosing mapping are a node only if `entries` holds, and block collections only
if `block` does. -/
def stepNode (setting : Setting) (block entries : Bool) (stack : List Expectation)
    (tokens : List Token) : Step :=
  match tokens with
  | [] => .error setting.cut
  | ⟨.alias name, mark⟩ :: rest => .ok (⟨.alias name, mark⟩, ⟨stack, rest⟩)
  | first :: _ => do
      let mark := first.mark
      let (labels, tokens) ← readLabels setting tokens
      match tokens with
      | [] => .error setting.cut
      | token :: rest =>
          let start event expected tokens : Step := .ok (⟨event, mark⟩, ⟨expected :: stack, tokens⟩)
          match token.kind, block, entries with
          | .blockEntry, _, true => start (.sequenceStart labels) .indentlessEntry tokens
          | .scalar text plain, _, _ => .ok (⟨.scalar labels text plain, mark⟩, ⟨stack, rest⟩)
          | .flowSequenceStart, _, _ => start (.sequenceStart labels) .flowSequenceFirst rest
          | .flowMappingStart, _, _ => start (.mappingStart labels) .flowMappingFirst rest
          | .blockSequenceStart, true, _ => start (.sequenceStart labels) .blockSequenceEntry rest
          | .blockMappingStart, true, _ => start (.mappingStart labels) .blockMappingKey rest
          | _, _, _ =>
              if labels.anchor.isSome || labels.tag.isSome then
                .ok (emptyScalar labels mark, ⟨stack, tokens⟩)
              else
                .error (.at token.mark .nodeMissing)

/-- Answers with an empty node; `stack` holds the expectations after it. -/
def stepEmpty (stack : List Expectation) (tokens : List Token) (mark : Mark) : Step :=
  .ok (emptyScalar {} mark, ⟨stack, tokens⟩)

/-! ## Block collections -/

/-- Answers the expectation of an entry of a block sequence. -/
def stepBlockEntry (setting : Setting) (stack : List Expectation) : List Token → Step
  | [] => .error setting.cut
  | ⟨.blockEntry, mark⟩ :: rest =>
      match rest with
      | [] => .error setting.cut
      | next :: _ =>
          let stack := .blockSequenceEntry :: stack
          match next.kind with
          | .blockEntry | .blockEnd => stepEmpty stack rest mark
          | _ => stepNode setting true false stack rest
  | ⟨.blockEnd, mark⟩ :: rest => .ok (⟨.sequenceEnd, mark⟩, ⟨stack, rest⟩)
  | token :: _ => .error (.at token.mark .blockEntryMissing)

/-- Answers the expectation of an entry of a sequence that stands at the column of its mapping. -/
def stepIndentlessEntry (setting : Setting) (stack : List Expectation) : List Token → Step
  | [] => .error setting.cut
  | ⟨.blockEntry, mark⟩ :: rest =>
      match rest with
      | [] => .error setting.cut
      | next :: _ =>
          let stack := .indentlessEntry :: stack
          match next.kind with
          | .blockEntry | .key | .value | .blockEnd => stepEmpty stack rest mark
          | _ => stepNode setting true false stack rest
  | token :: rest => .ok (⟨.sequenceEnd, token.mark⟩, ⟨stack, token :: rest⟩)

/-- Answers the expectation of a key or a value in a block mapping whose indicator has been passed
at `mark`. -/
def stepBlockPart (setting : Setting) (stack : List Expectation) (mark : Mark) :
    List Token → Step
  | [] => .error setting.cut
  | next :: rest =>
      match next.kind with
      | .key | .value | .blockEnd => stepEmpty stack (next :: rest) mark
      | _ => stepNode setting true true stack (next :: rest)

/-- Answers the expectation of a key of a block mapping. -/
def stepBlockKey (setting : Setting) (stack : List Expectation) : List Token → Step
  | [] => .error setting.cut
  | ⟨.key, mark⟩ :: rest => stepBlockPart setting (.blockMappingValue :: stack) mark rest
  | ⟨.blockEnd, mark⟩ :: rest => .ok (⟨.mappingEnd, mark⟩, ⟨stack, rest⟩)
  | token :: _ => .error (.at token.mark .blockKeyMissing)

/-- Answers the expectation of a value of a block mapping. -/
def stepBlockValue (setting : Setting) (stack : List Expectation) : List Token → Step
  | [] => .error setting.cut
  | ⟨.value, mark⟩ :: rest => stepBlockPart setting (.blockMappingKey :: stack) mark rest
  | token :: rest => stepEmpty (.blockMappingKey :: stack) (token :: rest) token.mark

/-! ## Flow collections -/

/-- Answers the expectation of a node between brackets, or of the end of them. -/
def stepFlowItem (setting : Setting) (stack : List Expectation) : List Token → Step
  | [] => .error setting.cut
  | ⟨.flowSequenceEnd, mark⟩ :: rest => .ok (⟨.sequenceEnd, mark⟩, ⟨stack, rest⟩)
  | ⟨.key, mark⟩ :: rest =>
      .ok (⟨.mappingStart {}, mark⟩, ⟨.flowPairKey :: .flowSequenceEntry :: stack, rest⟩)
  | tokens => stepNode setting false false (.flowSequenceEntry :: stack) tokens

/-- Answers the expectation of a further entry of a flow sequence. -/
def stepFlowEntry (setting : Setting) (stack : List Expectation) : List Token → Step
  | [] => .error setting.cut
  | ⟨.flowSequenceEnd, mark⟩ :: rest => .ok (⟨.sequenceEnd, mark⟩, ⟨stack, rest⟩)
  | ⟨.flowEntry, _⟩ :: rest => stepFlowItem setting stack rest
  | token :: _ => .error (.at token.mark .flowSequenceSeparatorMissing)

/-- Answers the expectation of the key of a lone pair in a flow sequence. A missing key swallows
the token that shows that it is missing. -/
def stepFlowPairKey (setting : Setting) (stack : List Expectation) : List Token → Step
  | [] => .error setting.cut
  | token :: rest =>
      let stack := .flowPairValue :: stack
      match token.kind with
      | .value | .flowEntry | .flowSequenceEnd => stepEmpty stack rest token.mark
      | _ => stepNode setting false false stack (token :: rest)

/-- Answers the expectation of the value of a lone pair in a flow sequence. -/
def stepFlowPairValue (setting : Setting) (stack : List Expectation) : List Token → Step
  | [] => .error setting.cut
  | ⟨.value, _⟩ :: rest =>
      match rest with
      | [] => .error setting.cut
      | next :: _ =>
          let stack := .flowPairEnd :: stack
          match next.kind with
          | .flowEntry | .flowSequenceEnd => stepEmpty stack rest next.mark
          | _ => stepNode setting false false stack rest
  | token :: rest => stepEmpty (.flowPairEnd :: stack) (token :: rest) token.mark

/-- Answers the expectation of a key of a flow mapping, or of its end. -/
def stepFlowMappingItem (setting : Setting) (stack : List Expectation) : List Token → Step
  | [] => .error setting.cut
  | ⟨.flowMappingEnd, mark⟩ :: rest => .ok (⟨.mappingEnd, mark⟩, ⟨stack, rest⟩)
  | ⟨.key, _⟩ :: rest =>
      match rest with
      | [] => .error setting.cut
      | next :: _ =>
          let stack := .flowMappingValue :: stack
          match next.kind with
          | .value | .flowEntry | .flowMappingEnd => stepEmpty stack rest next.mark
          | _ => stepNode setting false false stack rest
  | tokens => stepNode setting false false (.flowMappingNoValue :: stack) tokens

/-- Answers the expectation of a further key of a flow mapping. -/
def stepFlowMappingKey (setting : Setting) (stack : List Expectation) : List Token → Step
  | [] => .error setting.cut
  | ⟨.flowMappingEnd, mark⟩ :: rest => .ok (⟨.mappingEnd, mark⟩, ⟨stack, rest⟩)
  | ⟨.flowEntry, _⟩ :: rest => stepFlowMappingItem setting stack rest
  | token :: _ => .error (.at token.mark .flowMappingSeparatorMissing)

/-- Answers the expectation of a value of a flow mapping. -/
def stepFlowMappingValue (setting : Setting) (stack : List Expectation) : List Token → Step
  | [] => .error setting.cut
  | ⟨.value, _⟩ :: rest =>
      match rest with
      | [] => .error setting.cut
      | next :: _ =>
          let stack := .flowMappingKey :: stack
          match next.kind with
          | .flowEntry | .flowMappingEnd => stepEmpty stack rest next.mark
          | _ => stepNode setting false false stack rest
  | token :: rest => stepEmpty (.flowMappingKey :: stack) (token :: rest) token.mark

/-! ## Documents -/

/-- Answers the expectation of the content of a document after its start marker. -/
def stepContent (setting : Setting) (stack : List Expectation) : List Token → Step
  | [] => .error setting.cut
  | token :: rest =>
      match token.kind with
      | .versionDirective .. | .tagDirective .. | .documentStart | .documentEnd | .streamEnd =>
          stepEmpty stack (token :: rest) token.mark
      | _ => stepNode setting true false stack (token :: rest)

/-- Answers one expectation; `stack` holds the others. -/
def Expectation.step (setting : Setting) (stack : List Expectation) (tokens : List Token) :
    Expectation → Step
  | blockNode => stepNode setting true false stack tokens
  | documentContent => stepContent setting stack tokens
  | blockSequenceEntry => stepBlockEntry setting stack tokens
  | indentlessEntry => stepIndentlessEntry setting stack tokens
  | blockMappingKey => stepBlockKey setting stack tokens
  | blockMappingValue => stepBlockValue setting stack tokens
  | flowSequenceFirst => stepFlowItem setting stack tokens
  | flowSequenceEntry => stepFlowEntry setting stack tokens
  | flowPairKey => stepFlowPairKey setting stack tokens
  | flowPairValue => stepFlowPairValue setting stack tokens
  | flowPairEnd =>
      match tokens with
      | [] => .error setting.cut
      | token :: _ => .ok (⟨.mappingEnd, token.mark⟩, ⟨stack, tokens⟩)
  | flowMappingFirst => stepFlowMappingItem setting stack tokens
  | flowMappingKey => stepFlowMappingKey setting stack tokens
  | flowMappingValue => stepFlowMappingValue setting stack tokens
  | flowMappingNoValue =>
      match tokens with
      | [] => .error setting.cut
      | token :: _ => stepEmpty (.flowMappingKey :: stack) tokens token.mark

/-- The events that answer all expectations of a machine, and what ended them: a fault, or the
tokens left over. Each event takes one unit of `fuel`. -/
def Machine.run (setting : Setting) :
    (fuel : Nat) → Machine → List (PlacedEvent String) × Except Fault (List Token)
  | 0, _ => ([], .error setting.cut)
  | _ + 1, ⟨[], tokens⟩ => ([], .ok tokens)
  | fuel + 1, ⟨expected :: stack, tokens⟩ =>
      match expected.step setting stack tokens with
      | .error fault => ([], .error fault)
      | .ok (event, machine) =>
          let (events, outcome) := machine.run setting fuel
          (event :: events, outcome)

/-- The handles that need no declaration. -/
def defaultHandles : Handles := [("!", octetsOf "!"), ("!!", octetsOf "tag:yaml.org,2002:")]

/-- Reads the directives before a document; `version` says that the version has been declared. -/
def readDirectives (cut : Fault) (version : Bool) (handles : Handles) :
    List Token → Except Fault (Handles × List Token)
  | [] => .error cut
  | ⟨.versionDirective major minor, mark⟩ :: rest =>
      if version then .error (.at mark .versionRepeated)
      else if major == 1 && (minor == 1 || minor == 2) then readDirectives cut true handles rest
      else .error (.at mark .versionUnsupported)
  | ⟨.tagDirective handle lead, mark⟩ :: rest =>
      if (handles.lookup handle).isSome then .error (.at mark .tagHandleRepeated)
      else readDirectives cut version (handles ++ [(handle, lead)]) rest
  | tokens => .ok (handles ++ defaultHandles, tokens)

/-- Whether a token can only stand before the content of a document. -/
def TokenKind.opensDocument : TokenKind → Bool
  | versionDirective .. | tagDirective .. | documentStart => true
  | _ => false

/-- Whether a second document follows the first, given the tokens after it. -/
def isFollowed (tokens : List Token) : Bool :=
  match tokens.dropWhile (·.kind == .documentEnd) with
  | ⟨.streamEnd, _⟩ :: _ => false
  | _ => true

/-- The events of a document whose content starts with `tokens`. -/
def DocumentEvents.ofContent (setting : Setting) (expected : Expectation) (tokens : List Token) :
    DocumentEvents :=
  match Machine.run setting (4 * tokens.length + 8) ⟨[expected], tokens⟩ with
  | (events, .error fault) => ⟨events, some fault, false⟩
  | (events, .ok []) => ⟨events, some setting.cut, false⟩
  | (events, .ok rest) => ⟨events, none, isFollowed rest⟩

/-- The events of the first document, given the tokens of a text and the fault that ends them. An
event takes at least a quarter of a token, so the fuel lasts. -/
def DocumentEvents.ofTokens (tokens : List Token) (fault : Option Fault) : DocumentEvents :=
  let cut := fault.getD (.at {} .nodeMissing)
  match tokens with
  | [] => ⟨[], some cut, false⟩
  | first :: _ =>
      if first.kind == .streamEnd then ⟨[], none, false⟩
      else if first.kind.opensDocument then
        match readDirectives cut false [] tokens with
        | .error fault => ⟨[], some fault, false⟩
        | .ok (handles, ⟨.documentStart, _⟩ :: rest) =>
            .ofContent ⟨handles, cut⟩ .documentContent rest
        | .ok (_, token :: _) => ⟨[], some (.at token.mark .documentStartMissing), false⟩
        | .ok (_, []) => ⟨[], some cut, false⟩
      else .ofContent ⟨defaultHandles, cut⟩ .blockNode tokens

end ConfigSchema.Yaml
