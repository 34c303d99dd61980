import ConfigSchema.Element.Document
import ConfigSchema.Element.Validate
import ConfigSchema.Event.BlockText

/-!
# Documents as text

A schema reads documents from YAML text and writes them with comments.

## Main definitions

- `Element.load` — the valid document of a text
- `Element.dump` — the text of a document, or of a template
- `Element.overlay` — a layer on top of a document, validated
-/

namespace ConfigSchema

/-- The document of a YAML text, as it stands there. -/
def parseDocument (text : String) : Except Failure Value :=
  (Value.ofText? text).mapError .parse

namespace Element

/-- The valid document of a YAML text. -/
def load (element : Element) (text : String) : Except Failure Value := do
  element.validate .full (← parseDocument text)

/-- The text of a document with comments, or of a template without one. -/
def dump (element : Element) (opts : DumpOptions) (document? : Option Value) :
    Except Failure String :=
  (blockText (element.document opts document?)).mapError .stream

/-- A layer on top of a document, validated as a whole. -/
def overlay (element : Element) (base layer : Value) : Except Failure Value :=
  element.validate .full (element.merge base layer)

end Element

end ConfigSchema
