import ConfigSchema.Yaml.Fault

/-!
# Tokens

The signs of YAML, with the structure that indentation expresses made explicit: a block collection
starts with a token of its own and ends with `blockEnd`, and every key is announced by `key`.

## Main definitions

- `Octets` — the bytes of a tag
- `TokenKind`, `Token` — a sign, and a sign with its place
-/

namespace ConfigSchema.Yaml

/-- The bytes of a tag. They need not be UTF-8, because a tag can spell any byte. -/
abbrev Octets := List UInt8

/-- The kinds of tokens. -/
inductive TokenKind where
  | streamEnd
  | versionDirective (major minor : Nat)
  | tagDirective (handle : String) (lead : Octets)
  | documentStart
  | documentEnd
  | blockSequenceStart
  | blockMappingStart
  | blockEnd
  | flowSequenceStart
  | flowSequenceEnd
  | flowMappingStart
  | flowMappingEnd
  | blockEntry
  | flowEntry
  | key
  | value
  | alias (name : String)
  | anchor (name : String)
  /-- A tag: a handle that stands for a text declared elsewhere, or `""`, and what follows it. -/
  | tag (handle : String) (suffix : Octets)
  | scalar (text : String) (plain : Bool)
deriving DecidableEq, Repr

/-- A sign of a YAML text with its place. -/
structure Token where
  kind : TokenKind
  mark : Mark
deriving DecidableEq, Repr

end ConfigSchema.Yaml
