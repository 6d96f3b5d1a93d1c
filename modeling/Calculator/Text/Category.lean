/-!
# General categories

The general categories of the Unicode character database, under their names of two letters, and
the groups of them that share a first letter.
-/

namespace Calculator.Text

inductive Category where
  | lu | ll | lt | lm | lo
  | mn | mc | me
  | nd | nl | no
  | pc | pd | ps | pe | pi | pf | po
  | sm | sc | sk | so
  | zs | zl | zp
  | cc | cf | co | cn
  deriving DecidableEq

namespace Category

def all : List Category :=
  [lu, ll, lt, lm, lo, mn, mc, me, nd, nl, no, pc, pd, ps, pe, pi, pf, po, sm, sc, sk, so, zs, zl,
   zp, cc, cf, co, cn]

theorem mem_all (c : Category) : c ∈ all := by cases c <;> decide

/-- The short name and the long one. -/
def names : Category → String × String
  | lu => ("lu", "uppercaseletter")
  | ll => ("ll", "lowercaseletter")
  | lt => ("lt", "titlecaseletter")
  | lm => ("lm", "modifierletter")
  | lo => ("lo", "otherletter")
  | mn => ("mn", "nonspacingmark")
  | mc => ("mc", "spacingmark")
  | me => ("me", "enclosingmark")
  | nd => ("nd", "decimalnumber")
  | nl => ("nl", "letternumber")
  | no => ("no", "othernumber")
  | pc => ("pc", "connectorpunctuation")
  | pd => ("pd", "dashpunctuation")
  | ps => ("ps", "openpunctuation")
  | pe => ("pe", "closepunctuation")
  | pi => ("pi", "initialpunctuation")
  | pf => ("pf", "finalpunctuation")
  | po => ("po", "otherpunctuation")
  | sm => ("sm", "mathsymbol")
  | sc => ("sc", "currencysymbol")
  | sk => ("sk", "modifiersymbol")
  | so => ("so", "othersymbol")
  | zs => ("zs", "spaceseparator")
  | zl => ("zl", "lineseparator")
  | zp => ("zp", "paragraphseparator")
  | cc => ("cc", "control")
  | cf => ("cf", "format")
  | co => ("co", "privateuse")
  | cn => ("cn", "unassigned")

end Category

end Calculator.Text
