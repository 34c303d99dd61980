import ConfigSchema.Element.Check
import ConfigSchema.Element.Navigate
import ConfigSchema.Element.Text
import ConfigSchema.OrderedMap.Update
import ConfigSchema.Samples
import ConfigSchema.Proofs.Decimal.Integer
import ConfigSchema.Proofs.Element.Check
import ConfigSchema.Proofs.Element.Form
import ConfigSchema.Proofs.Element.RoundTrip
import ConfigSchema.Proofs.Event.Float
import ConfigSchema.Proofs.Event.Plain
import ConfigSchema.Proofs.Event.WellNested
import ConfigSchema.Proofs.Element.Absent
import ConfigSchema.Proofs.Element.Conforms
import ConfigSchema.Proofs.Element.Layer
import ConfigSchema.Proofs.Element.Merge
import ConfigSchema.Proofs.Element.Overlay
import ConfigSchema.Proofs.Event.Comments
import ConfigSchema.Proofs.Value.Text
import ConfigSchema.Proofs.Element.Default
import ConfigSchema.Proofs.Element.Dump
import ConfigSchema.Proofs.Element.Undemanding
import ConfigSchema.Proofs.Element.Order
import ConfigSchema.Proofs.Element.Derived
import ConfigSchema.Proofs.Element.Dumped
import ConfigSchema.Proofs.Element.Template
import ConfigSchema.Proofs.Element.Exposed
import ConfigSchema.Proofs.Element.Refusal
import ConfigSchema.Proofs.Element.EmptyDocument
import ConfigSchema.Proofs.Value.Grammar
import ConfigSchema.Proofs.Element.SetDefault
import ConfigSchema.Proofs.Value.Conversion
import ConfigSchema.Proofs.Element.CodeBlock
import ConfigSchema.Proofs.Element.Limits
import ConfigSchema.Proofs.Element.ExplicitNull
import ConfigSchema.Proofs.Element.DeclaredEntry
import ConfigSchema.Proofs.Element.Nested
import ConfigSchema.Proofs.Element.Entries
import ConfigSchema.Proofs.Element.Placeholder
import ConfigSchema.Proofs.Element.SharedDefaults
import ConfigSchema.Proofs.OrderedMap.View
import ConfigSchema.Proofs.Text.Wrap
import ConfigSchema.Proofs.Element.Comment
import ConfigSchema.Proofs.Element.OtherDefault
import ConfigSchema.Proofs.Event.OneLine
