import ConfigSchema.Pattern.CharClass.Flag
import ConfigSchema.Text.Script

/-!
# Boundaries

The properties by which Unicode splits texts into characters as readers see them, into words and
into sentences. Each gives a character one of several values.

## Main definitions

- `graphemeBreaks`, `wordBreaks`, `sentenceBreaks` — the values with their characters
-/

namespace ConfigSchema.Pattern.CharClass

open ConfigSchema.Text (CharRanges NamedSet)

namespace Boundary

open CharClass.Flag

/-! ## Lists -/

/-- The characters that belong to the one after them. -/
def prepended : CharRanges := [
  (0x600, 0x605), (0x6DD, 0x6DD), (0x70F, 0x70F), (0x890, 0x891), (0x8E2, 0x8E2), (0xD4E, 0xD4E),
  (0x110BD, 0x110BD), (0x110CD, 0x110CD), (0x111C2, 0x111C3), (0x113D1, 0x113D1),
  (0x1193F, 0x1193F), (0x11941, 0x11941), (0x11A84, 0x11A89), (0x11D46, 0x11D46),
  (0x11F02, 0x11F02)]

/-- Marks that take room and stand on their own. -/
def standingMarks : CharRanges := [
  (0x102B, 0x102C), (0x1038, 0x1038), (0x1062, 0x1064), (0x1067, 0x106D), (0x1083, 0x1083),
  (0x1087, 0x108C), (0x108F, 0x108F), (0x109A, 0x109C), (0x1A61, 0x1A61), (0x1A63, 0x1A64),
  (0xAA7B, 0xAA7B), (0xAA7D, 0xAA7D), (0x11720, 0x11721)]

/-- The first parts of Korean syllables. -/
def leadingJamo : CharRanges := [(0x1100, 0x115F), (0xA960, 0xA97C)]

/-- The vowels of Korean syllables, and of a script that joins them likewise. -/
def vowelJamo : CharRanges :=
  [(0x1160, 0x11A7), (0xD7B0, 0xD7C6), (0x16D63, 0x16D63), (0x16D67, 0x16D6A)]

/-- The last parts of Korean syllables. -/
def trailingJamo : CharRanges := [(0x11A8, 0x11FF), (0xD7CB, 0xD7FB)]

/-- The ends of lines besides the line feed and the carriage return. -/
def newlines : CharRanges := [(0xB, 0xC), (0x85, 0x85), (0x2028, 0x2029)]

/-- The letters and signs of Katakana. -/
def katakana : CharRanges := [
  (0x3031, 0x3035), (0x309B, 0x309C), (0x30A0, 0x30FA), (0x30FC, 0x30FF), (0x31F0, 0x31FF),
  (0x32D0, 0x32FE), (0x3300, 0x3357), (0xFF66, 0xFF9D), (0x1AFF0, 0x1AFF3), (0x1AFF5, 0x1AFFB),
  (0x1AFFD, 0x1AFFE), (0x1B000, 0x1B000), (0x1B120, 0x1B122), (0x1B155, 0x1B155),
  (0x1B164, 0x1B167)]

/-- Signs that count as letters of words. -/
def letterLike : CharRanges := [
  (0x2C2, 0x2C5), (0x2D2, 0x2D7), (0x2DE, 0x2DF), (0x2E5, 0x2EB), (0x2ED, 0x2ED), (0x2EF, 0x2FF),
  (0x55A, 0x55C), (0x55E, 0x55E), (0x58A, 0x58A), (0x5F3, 0x5F3), (0x70F, 0x70F), (0xA708, 0xA716),
  (0xA720, 0xA721), (0xA789, 0xA78A), (0xAB5B, 0xAB5B)]

/-- The letters of scripts that have no sign between words. -/
def dictionaryLetters : CharRanges := [
  (0xE01, 0xE3A), (0xE40, 0xE4E), (0xE81, 0xE82), (0xE84, 0xE84), (0xE86, 0xE8A), (0xE8C, 0xEA3),
  (0xEA5, 0xEA5), (0xEA7, 0xEBD), (0xEC0, 0xEC4), (0xEC6, 0xEC6), (0xEC8, 0xECE), (0xEDC, 0xEDF),
  (0x1000, 0x103F), (0x1050, 0x108F), (0x109A, 0x109F), (0x1780, 0x17D3), (0x17D7, 0x17D7),
  (0x17DC, 0x17DD), (0x1950, 0x196D), (0x1970, 0x1974), (0x1980, 0x19AB), (0x19B0, 0x19C9),
  (0x19DA, 0x19DA), (0x19DE, 0x19DF), (0x1A20, 0x1A5E), (0x1A60, 0x1A7C), (0x1AA0, 0x1AAD),
  (0xA9E0, 0xA9EF), (0xA9FA, 0xA9FE), (0xAA60, 0xAAC2), (0xAADB, 0xAADF), (0x11700, 0x1171A),
  (0x1171D, 0x1172B), (0x1173A, 0x1173B), (0x1173F, 0x11746)]

/-- The signs that join letters. -/
def midLetters : CharRanges := [
  (0x3A, 0x3A), (0xB7, 0xB7), (0x387, 0x387), (0x55F, 0x55F), (0x5F4, 0x5F4), (0x2027, 0x2027),
  (0xFE13, 0xFE13), (0xFE55, 0xFE55), (0xFF1A, 0xFF1A)]

/-- The signs that join digits. -/
def midNumbers : CharRanges := [
  (0x2C, 0x2C), (0x3B, 0x3B), (0x37E, 0x37E), (0x589, 0x589), (0x60C, 0x60D), (0x66C, 0x66C),
  (0x7F8, 0x7F8), (0x2044, 0x2044), (0xFE10, 0xFE10), (0xFE14, 0xFE14), (0xFE50, 0xFE50),
  (0xFE54, 0xFE54), (0xFF0C, 0xFF0C), (0xFF1B, 0xFF1B)]

/-- The signs that join letters as well as digits. -/
def midBoth : CharRanges := [
  (0x2E, 0x2E), (0x2018, 0x2019), (0x2024, 0x2024), (0xFE52, 0xFE52), (0xFF07, 0xFF07),
  (0xFF0E, 0xFF0E)]

/-- The spaces that do not break a line. -/
def tightSpaces : CharRanges := [(0xA0, 0xA0), (0x2007, 0x2007), (0x202F, 0x202F)]

/-- The ends of paragraphs besides the line feed and the carriage return. -/
def separators : CharRanges := [(0x85, 0x85), (0x2028, 0x2029)]

/-- The signs that may end a sentence. -/
def fullStops : CharRanges := [(0x2E, 0x2E), (0x2024, 0x2024), (0xFE52, 0xFE52), (0xFF0E, 0xFF0E)]

/-- The signs after which a sentence goes on. -/
def continuations : CharRanges := [
  (0x2C, 0x2D), (0x3A, 0x3B), (0x37E, 0x37E), (0x55D, 0x55D), (0x60C, 0x60D), (0x7F8, 0x7F8),
  (0x1802, 0x1802), (0x1808, 0x1808), (0x2013, 0x2014), (0x3001, 0x3001), (0xFE10, 0xFE11),
  (0xFE13, 0xFE14), (0xFE31, 0xFE32), (0xFE50, 0xFE51), (0xFE54, 0xFE55), (0xFE58, 0xFE58),
  (0xFE63, 0xFE63), (0xFF0C, 0xFF0D), (0xFF1A, 0xFF1B), (0xFF64, 0xFF64)]

/-- Quotation marks that neither open nor close by their category. -/
def otherQuotes : CharRanges := [
  (0x22, 0x22), (0x27, 0x27), (0x275B, 0x2760), (0x2E00, 0x2E01), (0x2E06, 0x2E08),
  (0x2E0B, 0x2E0B), (0x1F676, 0x1F678)]

/-- The capital letters of Georgian, which start no sentence. -/
def capitalGeorgian : CharRanges := [(0x1C90, 0x1CBA), (0x1CBD, 0x1CBF)]

/-! ## Characters as readers see them -/

/-- The line feed, the carriage return and the joiners. -/
def unbroken : CharRanges := [(0x0A, 0x0A), (0x0D, 0x0D), (0x200C, 0x200D)]

/-- The characters that go on with the one before them. -/
def extending : CharRanges := graphemeExtenders.union emojiModifiers

/-- The controls, with the code points for such. -/
def controls : CharRanges :=
  ((ofCategories [.zl, .zp, .cc, .cf]).union ((ofCategory .cn).inter ignorable)).diff
    (.unionAll [unbroken, prependedMarks, extending])

/-- The marks that take room and go on with the character before them. -/
def spacingMarks : CharRanges :=
  ((ofCategory .mc).union [(0xE33, 0xE33), (0xEB3, 0xEB3)]).diff (extending.union standingMarks)

/-- The Korean syllables without a last part: every twenty-eighth. -/
def openSyllables : CharRanges :=
  (List.range 399).map fun i => (0xAC00 + 28 * i, 0xAC00 + 28 * i)

/-- The Korean syllables with a last part. -/
def closedSyllables : CharRanges := CharRanges.diff [(0xAC00, 0xD7A3)] openSyllables

/-! ## Words -/

/-- The characters that go on with a word. -/
def wordExtending : CharRanges := extending.union (ofCategory .mc)

/-- The signs of layout that words pass over. -/
def wordFormats : CharRanges :=
  (ofCategory .cf).diff (.unionAll [[(0x200B, 0x200D)], prependedMarks, wordExtending])

/-- The letters of Hebrew. -/
def hebrew : CharRanges := Text.Script.hebrew.ranges.inter (ofCategory .lo)

/-- The letters of words. -/
def wordLetters : CharRanges :=
  (alphabetic.union letterLike).diff (.unionAll [ideographs, katakana, dictionaryLetters,
    Text.Script.hiragana.ranges, wordExtending, hebrew])

/-- The digits of words, with the signs that enclose digits. -/
def wordDigits : CharRanges :=
  .unionAll [ofCategory .nd, [(0x66B, 0x66B), (0x19DA, 0x19DA)],
    prependedMarks.diff [(0x70F, 0x70F)]]

/-- The connectors of words. -/
def connectors : CharRanges := (ofCategory .pc).union [(0x202F, 0x202F)]

/-- The spaces between words. -/
def wordSpaces : CharRanges := (ofCategory .zs).diff tightSpaces

/-! ## Sentences -/

/-- The characters that go on with a sentence. -/
def sentenceExtending : CharRanges :=
  .unionAll [graphemeExtenders, ofCategory .mc, [(0x200D, 0x200D)]]

/-- The digits of sentences, with the sign between thousands. -/
def sentenceDigits : CharRanges := wordDigits.union [(0x66C, 0x66C)]

/-- The signs of layout that sentences pass over. -/
def sentenceFormats : CharRanges := (ofCategory .cf).diff (sentenceExtending.union sentenceDigits)

/-- The spaces between sentences. -/
def sentenceSpaces : CharRanges := whiteSpace.diff (separators.union unbroken)

/-- The small letters, with which no sentence starts. -/
def smallLetters : CharRanges := lowercase.diff (sentenceExtending.union smallGeorgian)

/-- The letters that a sentence starts with. -/
def startingLetters : CharRanges := (uppercase.union (ofCategory .lt)).diff capitalGeorgian

/-- The letters without case. -/
def plainLetters : CharRanges :=
  (alphabetic.union [(0x5F3, 0x5F3)]).diff
    (.unionAll [smallLetters, startingLetters, sentenceExtending])

/-- The brackets and quotation marks. -/
def closings : CharRanges := (ofCategories [.ps, .pe, .pi, .pf]).union otherQuotes

end Boundary

open CharClass.Boundary CharClass.Flag in
/-- The values by which texts are split into characters as readers see them. -/
def graphemeBreaks : List NamedSet := [
  ⟨["cr"], .single 0x0D⟩,
  ⟨["control", "cn"], controls⟩,
  ⟨["extend", "ex"], extending⟩,
  ⟨["l"], leadingJamo⟩,
  ⟨["lf"], .single 0x0A⟩,
  ⟨["lv"], openSyllables⟩,
  ⟨["lvt"], closedSyllables⟩,
  ⟨["prepend", "pp"], prepended⟩,
  ⟨["regionalindicator", "ri"], regionalIndicators⟩,
  ⟨["spacingmark", "sm"], spacingMarks⟩,
  ⟨["t"], trailingJamo⟩,
  ⟨["v"], vowelJamo⟩,
  ⟨["zwj"], .single 0x200D⟩]

open CharClass.Boundary CharClass.Flag in
/-- The values by which texts are split into words. -/
def wordBreaks : List NamedSet := [
  ⟨["aletter", "le"], wordLetters⟩,
  ⟨["cr"], .single 0x0D⟩,
  ⟨["doublequote", "dq"], .single 0x22⟩,
  ⟨["extend"], wordExtending⟩,
  ⟨["extendnumlet", "ex"], connectors⟩,
  ⟨["format", "fo"], wordFormats⟩,
  ⟨["hebrewletter", "hl"], hebrew⟩,
  ⟨["katakana", "ka"], katakana⟩,
  ⟨["lf"], .single 0x0A⟩,
  ⟨["midletter", "ml"], midLetters⟩,
  ⟨["midnum", "mn"], midNumbers⟩,
  ⟨["midnumlet", "mb"], midBoth⟩,
  ⟨["newline", "nl"], newlines⟩,
  ⟨["numeric", "nu"], wordDigits⟩,
  ⟨["regionalindicator", "ri"], regionalIndicators⟩,
  ⟨["singlequote", "sq"], .single 0x27⟩,
  ⟨["wsegspace"], wordSpaces⟩,
  ⟨["zwj"], .single 0x200D⟩]

open CharClass.Boundary CharClass.Flag in
/-- The values by which texts are split into sentences. -/
def sentenceBreaks : List NamedSet := [
  ⟨["aterm", "at"], fullStops⟩,
  ⟨["cr"], .single 0x0D⟩,
  ⟨["close", "cl"], closings⟩,
  ⟨["extend", "ex"], sentenceExtending⟩,
  ⟨["format", "fo"], sentenceFormats⟩,
  ⟨["lf"], .single 0x0A⟩,
  ⟨["lower", "lo"], smallLetters⟩,
  ⟨["numeric", "nu"], sentenceDigits⟩,
  ⟨["oletter", "le"], plainLetters⟩,
  ⟨["scontinue", "sc"], continuations⟩,
  ⟨["sterm", "st"], sentenceTerminals.diff fullStops⟩,
  ⟨["sep", "se"], separators⟩,
  ⟨["sp"], sentenceSpaces⟩,
  ⟨["upper", "up"], startingLetters⟩]

end ConfigSchema.Pattern.CharClass
