import ConfigSchema.Event.Scalar
import ConfigSchema.Text.Lines

/-!
# Events as YAML text

A stream of events is written in block style: one entry or item per line, two columns of
indentation per level, and each comment on lines of its own before what it documents.

## Main definitions

- `commentText` — the lines of a comment
- `BlockText.entries`, `BlockText.items`, `BlockText.node` — the text of the parts of a document
- `blockText` — the text of a stream

## Design notes

Each function takes the events to come and returns the events after its part. The fuel bounds the
depth of the recursion; two calls pass at least one event, so twice the number of events lasts.
-/

namespace ConfigSchema

/-- How many columns each level is indented below the one that holds it. -/
def indentStep : Nat := 2

/-- From this many bytes on, a key may not stand on one line with its colon. -/
def longKeySize : Nat := 1024

/-- A number of spaces. -/
def spaces (count : Nat) : String := .ofList (List.replicate count ' ')

/-- The lines of a comment. -/
def commentText (indent : Nat) (text : String) : String :=
  .join ((Text.lines text).map fun line =>
    spaces indent ++ (if line.isEmpty then "#" else "# " ++ line) ++ "\n")

/-- The lines of several comments. -/
def commentsText (indent : Nat) (texts : List String) : String :=
  .join (texts.map (commentText indent))

/-- The comments at the start of the events, and the events after them. -/
def takeComments : List Event → List String × List Event
  | .comment text :: rest =>
      let (texts, rest) := takeComments rest
      (text :: texts, rest)
  | events => ([], events)

/-- Whether a collection whose start has been passed ends after nothing but comments. The end of
either kind of collection counts. -/
def closesAtOnce (events : List Event) : Bool :=
  match (takeComments events).2 with
  | .mappingEnd :: _ | .sequenceEnd :: _ => true
  | _ => false

/-- A part of the text, and the events after it. -/
abbrev Written := Except StreamFault (String × List Event)

namespace BlockText

/-- The lines after the sign of an empty collection, for the comments inside. -/
def emptyInside (indent : Nat) (events : List Event) : String × List Event :=
  let (texts, rest) := takeComments events
  (commentsText indent texts, rest.drop 1)

/-- The text of a key with the colon after it. -/
def keyText (indent : Nat) (key : String) : String :=
  if key.utf8ByteSize < longKeySize then spaces indent ++ key ++ ":"
  else spaces indent ++ "? " ++ key ++ "\n" ++ spaces indent ++ ":"

mutual

/-- The entries of a mapping whose start has been passed, to its end. -/
def entries : (fuel indent : Nat) → List Event → Written
  | 0, _, _ => .error .endedEarly
  | _ + 1, _, [] => .error .endedEarly
  | _ + 1, _, .mappingEnd :: rest => .ok ("", rest)
  | fuel + 1, indent, .comment text :: rest => do
      let (more, rest) ← entries fuel indent rest
      return (commentText indent text ++ more, rest)
  | fuel + 1, indent, .scalar text tag :: rest => do
      let key ← if tag == .null then pure "null" else renderScalar text tag
      let (value, rest) ← node fuel indent rest
      let (more, rest) ← entries fuel indent rest
      return (keyText indent key ++ value ++ more, rest)
  | _ + 1, _, event :: _ => .error (.unexpected .mappingKey event)
termination_by structural fuel => fuel

/-- The items of a sequence whose start has been passed, to its end. -/
def items : (fuel indent : Nat) → List Event → Written
  | 0, _, _ => .error .endedEarly
  | _ + 1, _, [] => .error .endedEarly
  | _ + 1, _, .sequenceEnd :: rest => .ok ("", rest)
  | fuel + 1, indent, .comment text :: rest => do
      let (more, rest) ← items fuel indent rest
      return (commentText indent text ++ more, rest)
  | fuel + 1, indent, events => do
      let (item, rest) ← node fuel indent events
      let (more, rest) ← items fuel indent rest
      return (spaces indent ++ "-" ++ item ++ more, rest)
termination_by structural fuel => fuel

/-- A node after the sign of its entry or item, which stands at the column `indent`. -/
def node : (fuel indent : Nat) → List Event → Written
  | 0, _, _ => .error .endedEarly
  | fuel + 1, indent, events =>
      let (pending, events) := takeComments events
      let inner := indent + indentStep
      let comments := commentsText inner pending
      match events with
      | [] => .error .endedEarly
      | .scalar text tag :: rest => do
          let rendered ← renderScalar text tag
          return ((if rendered.isEmpty then "" else " " ++ rendered) ++ "\n" ++ comments, rest)
      | .mappingStart :: rest =>
          if closesAtOnce rest then
            let (inside, rest) := emptyInside inner rest
            .ok (" \x7b\x7d\n" ++ inside ++ comments, rest)
          else do
            let (text, rest) ← entries fuel inner rest
            return ("\n" ++ comments ++ text, rest)
      | .sequenceStart :: rest =>
          if closesAtOnce rest then
            let (inside, rest) := emptyInside inner rest
            .ok (" []\n" ++ inside ++ comments, rest)
          else do
            let (text, rest) ← items fuel inner rest
            return ("\n" ++ comments ++ text, rest)
      | event :: _ => .error (.unexpected .valueNode event)
termination_by structural fuel => fuel

end

/-- The node of a document, which may be missing. -/
def document (events : List Event) : Written :=
  let fuel := 2 * events.length + 2
  match events with
  | [] => .error .endedEarly
  | .streamEnd :: _ => .ok ("", events)
  | .scalar text tag :: rest => do
      let rendered ← renderScalar text tag
      return ((if rendered.isEmpty then "null" else rendered) ++ "\n", rest)
  | .mappingStart :: rest =>
      if closesAtOnce rest then
        let (inside, rest) := emptyInside indentStep rest
        .ok ("\x7b\x7d\n" ++ inside, rest)
      else entries fuel 0 rest
  | .sequenceStart :: rest =>
      if closesAtOnce rest then
        let (inside, rest) := emptyInside indentStep rest
        .ok ("[]\n" ++ inside, rest)
      else items fuel 0 rest
  | event :: _ => .error (.unexpected .documentNode event)

end BlockText

/-- The YAML text of a stream, which holds at most one node between its start and its end. -/
def blockText : List Event → Except StreamFault String
  | [] => .error .endedEarly
  | .streamStart :: events => do
      let (early, events) := takeComments events
      let (text, events) ← BlockText.document events
      let (late, events) := takeComments events
      match events with
      | [] => throw .endedEarly
      | [.streamEnd] => return commentsText 0 early ++ text ++ commentsText 0 late
      | .streamEnd :: _ => throw .trailing
      | event :: _ => throw (.unexpected .streamEnd event)
  | event :: _ => .error (.unexpected .streamStart event)

end ConfigSchema
