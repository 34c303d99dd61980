/-!
# General categories

Unicode sorts all code points into thirty categories, which are gathered into seven groups.

## Main definitions

- `Category` — the categories
-/

namespace ConfigSchema.Text

/-- A general category of Unicode. -/
inductive Category where
  | lu | ll | lt | lm | lo
  | mn | mc | me
  | nd | nl | no
  | pc | pd | ps | pe | pi | pf | po
  | sm | sc | sk | so
  | zs | zl | zp
  | cc | cf | cs | co | cn
deriving DecidableEq, Repr

end ConfigSchema.Text
