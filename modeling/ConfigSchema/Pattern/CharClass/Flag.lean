import ConfigSchema.Pattern.CharClass
import ConfigSchema.Pattern.CharClass.Category
import ConfigSchema.Pattern.CharClass.Flag.Table
import ConfigSchema.Text.Category.Property

/-!
# Flags

Properties that a character has or has not. Many follow from the general category and a list of
characters that have them beyond it.

## Main definitions

- `flags` — all flags, with their long and their short names
-/

namespace ConfigSchema.Pattern.CharClass

open ConfigSchema.Text (CharRanges NamedSet)

namespace Flag

/-! ## Letters -/

/-- Alphabetic characters that are in other categories than letters and their numbers. -/
def otherAlphabetic : CharRanges := known Text.otherAlphabetic

/-- The letters and what counts as one. -/
def alphabetic : CharRanges := (ofCategories (.nl :: letters)).union otherAlphabetic

/-- The small letters. -/
def lowercase : CharRanges := (ofCategory .ll).union otherLowercase

/-- The capital letters. -/
def uppercase : CharRanges := (ofCategory .lu).union otherUppercase

/-- The letters that are small, capital or begin with a capital. -/
def cased : CharRanges := .unionAll [lowercase, uppercase, ofCategory .lt]

/-- The characters that are passed over when looking for a letter with case. -/
def caseIgnorable : CharRanges := known Text.caseIgnorableRanges

/-- The digraphs in capitals, whose second letter becomes small at the start of a word. -/
def capitalDigraphs : CharRanges :=
  [(0x1C4, 0x1C4), (0x1C7, 0x1C7), (0x1CA, 0x1CA), (0x1F1, 0x1F1)]

/-- The small letters of Georgian, which stay small at the start of a word. -/
def smallGeorgian : CharRanges := [(0x10D0, 0x10FA), (0x10FD, 0x10FF)]

/-- The capital letters of Cherokee, to which its small ones fold. -/
def capitalCherokee : CharRanges := [(0x13A0, 0x13F5)]

/-- The small letters that have a capital since version 17 only. -/
def recentPairs : CharRanges := [(0xA7D3, 0xA7D3), (0xA7D5, 0xA7D5)]

/-- The characters with another form in lower case. -/
def lowered : CharRanges :=
  known (.ofCodes (Text.lowerRuns.flatMap (·.sources) ++ Text.lowerExpansions.map (·.1)))

/-- The characters with another form in upper case. -/
def raised : CharRanges :=
  (known (.ofCodes (Text.upperRuns.flatMap (·.sources) ++ Text.upperExpansions.map (·.1)))).diff
    recentPairs

/-- The characters with another form at the start of a word. -/
def capitalized : CharRanges :=
  (raised.union capitalDigraphs).diff ((ofCategory .lt).union smallGeorgian)

/-- The characters that the folding of case changes. -/
def folded : CharRanges := (lowered.union fullFoldings).diff capitalCherokee

/-! ## Names and marks -/

/-- The white space of Unicode. -/
def whiteSpace : CharRanges := unicodeSpaces

/-- The characters that have a meaning for programs. -/
def syntaxMarks : CharRanges := patternSyntax.union patternSpaces

/-- The characters that a name may start with. -/
def idStarts : CharRanges :=
  ((ofCategories (.nl :: letters)).union otherIdStarts).diff syntaxMarks

/-- The characters that a name may go on with. -/
def idContinues : CharRanges :=
  .unionAll [idStarts, (ofCategories [.mn, .mc, .nd, .pc]).diff syntaxMarks, otherIdContinues]

/-- The characters that a name may start with, also when it is normalized. -/
def stableIdStarts : CharRanges := idStarts.diff (foldingIds.union foldingIdStarts)

/-- The characters that a name may go on with, also when it is normalized. -/
def stableIdContinues : CharRanges := idContinues.diff foldingIds

/-- The mathematical characters. -/
def math : CharRanges := (ofCategory .sm).union otherMath

/-- Characters of other categories than marks that yet belong to the character before them. -/
def otherExtenders : CharRanges := known Text.otherExtenders

/-- The characters that belong to the one before them. -/
def graphemeExtenders : CharRanges := (ofCategories [.mn, .me]).union otherExtenders

/-- The characters that stand on their own. -/
def graphemeBases : CharRanges :=
  ((ofCategories [.cc, .cf, .cs, .co, .cn, .zl, .zp]).union graphemeExtenders).compl

/-- Signs of layout that are always shown. -/
def shownFormats : CharRanges := [(0xFFF9, 0xFFFB), (0x13430, 0x13440)]

/-- The characters that may be left out of the picture. -/
def ignorable : CharRanges :=
  (CharRanges.unionAll [otherIgnorable, ofCategory .cf, variationSelectors]).diff
    (.unionAll [whiteSpace, shownFormats, prependedMarks])

end Flag

open CharClass.Flag in
/-- All flags by their long and their short names. -/
def flags : List NamedSet := [
  ⟨["asciihexdigit", "ahex"], asciiHexDigits⟩,
  ⟨["alphabetic", "alpha"], alphabetic⟩,
  ⟨["bidicontrol", "bidic"], bidiControls⟩,
  ⟨["bidimirrored", "bidim"], bidiMirrored⟩,
  ⟨["caseignorable", "ci"], caseIgnorable⟩,
  ⟨["cased"], cased⟩,
  ⟨["changeswhencasefolded", "cwcf"], folded⟩,
  ⟨["changeswhencasemapped", "cwcm"], .unionAll [lowered, raised, capitalized]⟩,
  ⟨["changeswhenlowercased", "cwl"], lowered⟩,
  ⟨["changeswhentitlecased", "cwt"], capitalized⟩,
  ⟨["changeswhenuppercased", "cwu"], raised⟩,
  ⟨["dash"], dashes⟩,
  ⟨["defaultignorablecodepoint", "di"], ignorable⟩,
  ⟨["deprecated", "dep"], deprecated⟩,
  ⟨["diacritic", "dia"], diacritics⟩,
  ⟨["emoji"], emoji⟩,
  ⟨["emojicomponent", "ecomp"], emojiComponents⟩,
  ⟨["emojimodifier", "emod"], emojiModifiers⟩,
  ⟨["emojimodifierbase", "ebase"], emojiBases⟩,
  ⟨["emojipresentation", "epres"], emojiPresentation⟩,
  ⟨["extendedpictographic", "extpict"], pictographs⟩,
  ⟨["extender", "ext"], extenders⟩,
  ⟨["graphemebase", "grbase"], graphemeBases⟩,
  ⟨["graphemeextend", "grext"], graphemeExtenders⟩,
  ⟨["graphemelink", "grlink"], graphemeLinks⟩,
  ⟨["hexdigit", "hex"], hexDigits⟩,
  ⟨["hyphen"], hyphens⟩,
  ⟨["idcompatmathcontinue"], mathContinues⟩,
  ⟨["idcompatmathstart"], mathStarts⟩,
  ⟨["idcontinue", "idc"], idContinues⟩,
  ⟨["idstart", "ids"], idStarts⟩,
  ⟨["ideographic", "ideo"], ideographs⟩,
  ⟨["idsbinaryoperator", "idsb"], binaryIdeographOperators⟩,
  ⟨["idstrinaryoperator", "idst"], ternaryIdeographOperators⟩,
  ⟨["idsunaryoperator", "idsu"], unaryIdeographOperators⟩,
  ⟨["joincontrol", "joinc"], joinControls⟩,
  ⟨["logicalorderexception", "loe"], logicalOrderExceptions⟩,
  ⟨["lowercase", "lower"], lowercase⟩,
  ⟨["math"], math⟩,
  ⟨["modifiercombiningmark", "mcm"], combiningModifiers⟩,
  ⟨["noncharactercodepoint", "nchar"], noncharacters⟩,
  ⟨["otheralphabetic", "oalpha"], otherAlphabetic⟩,
  ⟨["otherdefaultignorablecodepoint", "odi"], otherIgnorable⟩,
  ⟨["othergraphemeextend", "ogrext"], otherExtenders⟩,
  ⟨["otheridcontinue", "oidc"], otherIdContinues⟩,
  ⟨["otheridstart", "oids"], otherIdStarts⟩,
  ⟨["otherlowercase", "olower"], otherLowercase⟩,
  ⟨["othermath", "omath"], otherMath⟩,
  ⟨["otheruppercase", "oupper"], otherUppercase⟩,
  ⟨["patternsyntax", "patsyn"], patternSyntax⟩,
  ⟨["patternwhitespace", "patws"], patternSpaces⟩,
  ⟨["prependedconcatenationmark", "pcm"], prependedMarks⟩,
  ⟨["quotationmark", "qmark"], quotationMarks⟩,
  ⟨["radical"], radicals⟩,
  ⟨["regionalindicator", "ri"], regionalIndicators⟩,
  ⟨["sentenceterminal", "sterm"], sentenceTerminals⟩,
  ⟨["softdotted", "sd"], softDotted⟩,
  ⟨["terminalpunctuation", "term"], terminalPunctuation⟩,
  ⟨["unifiedideograph", "uideo"], unifiedIdeographs⟩,
  ⟨["uppercase", "upper"], uppercase⟩,
  ⟨["variationselector", "vs"], variationSelectors⟩,
  ⟨["whitespace", "wspace", "space"], whiteSpace⟩,
  ⟨["xidcontinue", "xidc"], stableIdContinues⟩,
  ⟨["xidstart", "xids"], stableIdStarts⟩]

end ConfigSchema.Pattern.CharClass
