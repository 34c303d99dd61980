import ConfigSchema.DumpOptions
import ConfigSchema.Element
import ConfigSchema.Text.Case
import ConfigSchema.Text.Lines
import ConfigSchema.Text.Wrap
import ConfigSchema.Value.Events

/-!
# Documents with comments

A value is written in the order of its schema, with comments that explain each element. Without a
value a template is written: the defaults, and one example item in each list.

## Main definitions

- `Element.comment` — the comment that explains an element
- `Element.events` — the events of a value, as the element tells
- `Element.document` — the stream of a whole document
-/

namespace ConfigSchema

/-- The line about a range, if there is one. -/
def Info.rangeLine? (info : Info) : Option String :=
  match info.min?, info.max? with
  | some least, some most =>
      some ("Valid Range: " ++ eventFloat.text least ++ " - " ++ eventFloat.text most)
  | some least, none => some ("Valid Range: >= " ++ eventFloat.text least)
  | none, some most => some ("Valid Range: <= " ++ eventFloat.text most)
  | none, none => none

/-- The line about choices, if there are any. -/
def Info.choicesLine? (info : Info) : Option String :=
  if info.choices.isEmpty then none else some ("Choices: " ++ displayAll info.choices)

namespace Element

/-- The line about the values that an element allows. -/
def limitsLine? : Element → Option String
  | scalar info .int | scalar info .float => info.rangeLine?.or info.choicesLine?
  | scalar _ (.pattern p) => some ("Values must match: r'" ++ p.source ++ "'")
  | list _ _ minLength? maxLength? =>
      some ("May contain " ++ toString (minLength?.getD 0) ++ " - " ++
        (maxLength?.map toString).getD "inf" ++ " items.")
  | scalar info _ | code info | keyed info _ _ | category info _ _ _ | derived info _ =>
      info.choicesLine?

/-- The comment that explains an element: name, type and help, and then what it allows. -/
def comment (element : Element) (opts : DumpOptions) (showName : Bool) : String :=
  let info := element.info
  let name := if showName then Text.toUpper (info.name?.getD "") else ""
  let required := if info.required then "required " else ""
  let help := match info.help? with
    | some help => ": " ++ help
    | none => ""
  let header := name ++ "(" ++ required ++ element.kindName ++ ")" ++ help
  let limits := if opts.showChoices then element.limitsLine? else none
  "\n".intercalate
    ((header :: limits.toList).flatMap fun text => Text.wrap text opts.commentWidth)

/-- The comment in front of an element, if comments are shown. -/
def commentEvents (element : Element) (opts : DumpOptions) (showName : Bool) : List Event :=
  if opts.showComments then [.comment (element.comment opts showName)] else []

/-- Whether the entry of an element is left out of a section: when it is computed or hidden, and, if
the options ask for it, when it is equal to the default. -/
def isOmitted (element : Element) (opts : DumpOptions) (value? : Option Value) : Bool :=
  element.isDerived || element.info.hidden ||
    opts.omitDefaults && element.info.default?.any fun default => value?.getD default == default

/-- The events of the lines of a code block. A value that is no text is written as it is. -/
def codeEvents (value? : Option Value) : List Event :=
  match value? with
  | some (.str block) => .sequenceStart :: (Text.lines block).map .str ++ [.sequenceEnd]
  | some value => value.events
  | none => [.sequenceStart, .sequenceEnd]

/-- The entries of a mapping that no element of a section declares. -/
def extraEvents (children : List Element) (fields? : Option (OrderedMap Value)) : List Event :=
  Value.fieldEvents
    (((fields?.map OrderedMap.entries).getD []).filter fun entry =>
      !children.any (·.isNamed entry.1))

mutual

/-- The events of a value, or of a template without one. A value of another shape than the element
is written as it is. -/
def events : Element → (opts : DumpOptions) → Option Value → List Event
  | scalar info _, _, value? => (value?.getD (info.default?.getD .null)).events
  | code info, _, value? => codeEvents (value?.or info.default?)
  | keyed info children _, opts, value? =>
      let inside (fields? : Option (OrderedMap Value)) :=
        .mappingStart :: childEvents children opts fields? ++ extraEvents children fields? ++
          [.mappingEnd]
      match value? with
      | none => inside (info.default?.bind Value.asMap?)
      | some (.map fields) => inside (some fields)
      | some value => value.events
  | category info item _ _, opts, value? =>
      let inside (fields? : Option (OrderedMap Value)) :=
        .mappingStart :: item.commentEvents opts false ++
          ((fields?.map OrderedMap.entries).getD []).flatMap (fun (key, value) =>
            .str key :: item.events opts (some value)) ++ [.mappingEnd]
      match value? with
      | none => inside (info.default?.bind Value.asMap?)
      | some (.map fields) => inside (some fields)
      | some value => value.events
  | list info item _ _, opts, value? =>
      let inside (items? : Option (List Value)) :=
        .sequenceStart :: item.commentEvents opts false ++
          (match items? with
            | some items => items.flatMap fun value => item.events opts (some value)
            | none => item.events opts none) ++ [.sequenceEnd]
      match value? with
      | none => inside (info.default?.bind Value.asSeq?)
      | some (.seq items) => inside (some items)
      | some value => value.events
  | derived _ _, _, _ => []
termination_by structural element => element

/-- The events of the declared entries of a section. -/
def childEvents : List Element → (opts : DumpOptions) → Option (OrderedMap Value) → List Event
  | [], _, _ => []
  | child :: rest, opts, fields? =>
      let value? := fields?.bind (·.get? child.key)
      let entry := if child.isOmitted opts value? then []
        else child.commentEvents opts true ++ .str child.key :: child.events opts value?
      entry ++ childEvents rest opts fields?
termination_by structural children => children

end

/-- The stream of a document, or of a template. A comment at its start explains the root, if that
has a help text. -/
def document (element : Element) (opts : DumpOptions) (value? : Option Value) : List Event :=
  let comment := if element.info.help?.isSome then element.commentEvents opts true else []
  .streamStart :: comment ++ element.events opts value? ++ [.streamEnd]

end Element

end ConfigSchema
