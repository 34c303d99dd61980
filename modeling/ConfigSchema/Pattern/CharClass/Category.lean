import ConfigSchema.Text.Age
import ConfigSchema.Text.Category.Table

/-!
# Classes by category

The general categories as patterns know them: those of version 16.

## Main definitions

- `CharClass.ofCategories` — the characters of some categories
- `CharClass.category?` — the characters of the categories that a name stands for
-/

namespace ConfigSchema.Pattern.CharClass

open ConfigSchema.Text (Category CharRanges)

/-- The characters of a set that patterns know. -/
def known (set : CharRanges) : CharRanges := set.diff Text.recentRanges

/-- The letter that has no case since version 17 only. -/
def glottalStop : CharRanges := [(0x295, 0x295)]

/-- All code points that are assigned. -/
def assigned : CharRanges :=
  known (.unionAll (Category.assigned.map Category.ranges))

/-- The code points of a category. All that are not assigned are a category too. -/
def ofCategory : Category → CharRanges
  | .ll => (known Category.ll.ranges).union glottalStop
  | .lo => (known Category.lo.ranges).diff glottalStop
  | .cn => assigned.compl
  | category => known category.ranges

/-- The code points of some categories. -/
def ofCategories (categories : List Category) : CharRanges :=
  .unionAll (categories.map ofCategory)

/-- The categories of letters. -/
def letters : List Category := [.lu, .ll, .lt, .lm, .lo]

/-- The categories that a folded name stands for. -/
def categories? : String → Option (List Category)
  | "l" | "letter" => some letters
  | "lc" | "casedletter" => some [.lu, .ll, .lt]
  | "lu" | "uppercaseletter" => some [.lu]
  | "ll" | "lowercaseletter" => some [.ll]
  | "lt" | "titlecaseletter" => some [.lt]
  | "lm" | "modifierletter" => some [.lm]
  | "lo" | "otherletter" => some [.lo]
  | "m" | "mark" | "combiningmark" => some [.mn, .mc, .me]
  | "mn" | "nonspacingmark" => some [.mn]
  | "mc" | "spacingmark" => some [.mc]
  | "me" | "enclosingmark" => some [.me]
  | "n" | "number" => some [.nd, .nl, .no]
  | "nd" | "decimalnumber" | "digit" => some [.nd]
  | "nl" | "letternumber" => some [.nl]
  | "no" | "othernumber" => some [.no]
  | "p" | "punct" | "punctuation" => some [.pc, .pd, .ps, .pe, .pi, .pf, .po]
  | "pc" | "connectorpunctuation" => some [.pc]
  | "pd" | "dashpunctuation" => some [.pd]
  | "ps" | "openpunctuation" => some [.ps]
  | "pe" | "closepunctuation" => some [.pe]
  | "pi" | "initialpunctuation" => some [.pi]
  | "pf" | "finalpunctuation" => some [.pf]
  | "po" | "otherpunctuation" => some [.po]
  | "s" | "symbol" => some [.sm, .sc, .sk, .so]
  | "sm" | "mathsymbol" => some [.sm]
  | "sc" | "currencysymbol" => some [.sc]
  | "sk" | "modifiersymbol" => some [.sk]
  | "so" | "othersymbol" => some [.so]
  | "z" | "separator" => some [.zs, .zl, .zp]
  | "zs" | "spaceseparator" => some [.zs]
  | "zl" | "lineseparator" => some [.zl]
  | "zp" | "paragraphseparator" => some [.zp]
  | "c" | "other" => some [.cc, .cf, .cs, .co, .cn]
  | "cc" | "cntrl" | "control" => some [.cc]
  | "cf" | "format" => some [.cf]
  | "co" | "privateuse" => some [.co]
  | "cn" | "unassigned" => some [.cn]
  | _ => none

/-- The characters of the categories that a folded name stands for. -/
def category? (name : String) : Option CharRanges :=
  match name with
  | "any" => some [(0x0, Text.maxCode)]
  | "assigned" => some (ofCategory .cn).compl
  | "ascii" => some [(0x0, 0x7F)]
  | _ => (categories? name).map ofCategories

end ConfigSchema.Pattern.CharClass
