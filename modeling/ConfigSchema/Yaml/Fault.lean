/-!
# Faults in YAML text

What can be wrong with a YAML text. Most faults have a place in the text; the two that concern
the document as a whole do not.

## Main definitions

- `Mark` — a place in the text
- `Problem` — what is wrong at a place
- `Fault` — a problem with its place, or a fault of the whole text
-/

namespace ConfigSchema.Yaml

/-- A place in a text: bytes, lines and columns before it. -/
structure Mark where
  offset : Nat := 0
  line : Nat := 0
  column : Nat := 0
deriving DecidableEq, Repr, Inhabited

/-- What is wrong at a place of a YAML text. -/
inductive Problem where
  | forbiddenCharacter
  | noTokenStart
  | missingColon
  | misplacedEntry
  | misplacedKey
  | misplacedValue
  | directiveNameMissing
  | directiveNameGarbled
  | directiveUnknown
  | directiveTrailing
  | versionDigitMissing
  | versionDotMissing
  | versionTooLong
  | versionUnsupported
  | versionRepeated
  | tagHandleMissing
  | tagHandleOpen
  | tagHandleUnknown
  | tagHandleRepeated
  | tagSpaceMissing
  | tagUriMissing
  | tagBracketMissing
  | tagEscapeGarbled
  | tagOctetLeading
  | tagOctetTrailing
  | anchorNameMissing
  | anchorUnknown
  | blockIndentZero
  | blockHeaderTrailing
  | blockTab
  | quotedDocumentMarker
  | quotedOpen
  | escapeUnknown
  | escapeDigitMissing
  | escapeCodeInvalid
  | plainColon
  | plainTab
  | documentStartMissing
  | nodeMissing
  | blockEntryMissing
  | blockKeyMissing
  | flowSequenceSeparatorMissing
  | flowMappingSeparatorMissing
  | nestedTooDeeply
  | duplicateKey
  | scalarKindMismatch
  | integerTooLarge
deriving DecidableEq, Repr

/-- The wording of a problem. -/
def Problem.message : Problem → String
  | forbiddenCharacter => "control characters are not allowed"
  | noTokenStart => "found character that cannot start any token"
  | missingColon => "could not find expected ':'"
  | misplacedEntry => "block sequence entries are not allowed in this context"
  | misplacedKey => "mapping keys are not allowed in this context"
  | misplacedValue => "mapping values are not allowed in this context"
  | directiveNameMissing => "could not find expected directive name"
  | directiveNameGarbled => "found unexpected non-alphabetical character"
  | directiveUnknown => "found unknown directive name"
  | directiveTrailing => "did not find expected comment or line break"
  | versionDigitMissing => "did not find expected version number"
  | versionDotMissing => "did not find expected digit or '.' character"
  | versionTooLong => "found extremely long version number"
  | versionUnsupported => "found incompatible YAML document"
  | versionRepeated => "found duplicate %YAML directive"
  | tagHandleMissing => "did not find expected '!'"
  | tagHandleOpen => "did not find the closing '!' of a tag handle"
  | tagHandleUnknown => "found undefined tag handle"
  | tagHandleRepeated => "found duplicate %TAG directive"
  | tagSpaceMissing => "did not find expected whitespace or line break"
  | tagUriMissing => "did not find expected tag URI"
  | tagBracketMissing => "did not find the expected '>'"
  | tagEscapeGarbled => "did not find URI escaped octet"
  | tagOctetLeading => "found an incorrect leading UTF-8 octet"
  | tagOctetTrailing => "found an incorrect trailing UTF-8 octet"
  | anchorNameMissing => "did not find expected alphabetic or numeric character"
  | anchorUnknown => "unknown anchor"
  | blockIndentZero => "found an indentation indicator equal to 0"
  | blockHeaderTrailing => "did not find expected comment or line break"
  | blockTab => "found a tab character where an indentation space is expected"
  | quotedDocumentMarker => "found unexpected document indicator"
  | quotedOpen => "found unexpected end of stream"
  | escapeUnknown => "found unknown escape character"
  | escapeDigitMissing => "did not find expected hexdecimal number"
  | escapeCodeInvalid => "found invalid Unicode character escape code"
  | plainColon => "found unexpected ':'"
  | plainTab => "found a tab character that violates indentation"
  | documentStartMissing => "did not find expected <document start>"
  | nodeMissing => "did not find expected node content"
  | blockEntryMissing => "did not find expected '-' indicator"
  | blockKeyMissing => "did not find expected key"
  | flowSequenceSeparatorMissing => "did not find expected ',' or ']'"
  | flowMappingSeparatorMissing => "did not find expected ',' or '\x7d'"
  | nestedTooDeeply => "recursion limit exceeded"
  | duplicateKey => "duplicate entry in a mapping"
  | scalarKindMismatch => "the scalar does not fit its tag"
  | integerTooLarge => "the integer has too many digits"

/-- Why a YAML text has no document tree. -/
inductive Fault where
  /-- Something is wrong at a place. -/
  | at (mark : Mark) (problem : Problem)
  /-- Aliases repeat nodes too often. -/
  | repetition
  /-- A second document, readable or not, follows the first. -/
  | severalDocuments
deriving DecidableEq, Repr

/-- The wording of a fault. -/
def Fault.message : Fault → String
  | .at _ problem => problem.message
  | repetition => "repetition limit exceeded"
  | severalDocuments =>
      "deserializing from YAML containing more than one document is not supported"

end ConfigSchema.Yaml
