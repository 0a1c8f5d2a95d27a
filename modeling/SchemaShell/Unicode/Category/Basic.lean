import SchemaShell.Unicode.Category.Letters
import SchemaShell.Unicode.Category.Marks
import SchemaShell.Unicode.Category.Signs

/-!
# General categories

Every code point has exactly one general category. The constructors are the two letters that the
standard gives to each. No character is a surrogate, and a character that stands in no table is
unassigned. The tables are those of version 16.0 of the standard.
-/

namespace SchemaShell.Unicode

inductive Category where
  | lu | ll | lt | lm | lo
  | mn | mc | me
  | nd | nl | no
  | pc | pd | ps | pe | pi | pf | po
  | sm | sc | sk | so
  | zs | zl | zp
  | cc | cf | cs | co | cn
  deriving DecidableEq, Repr

namespace Category

def letters : List Category := [lu, ll, lt, lm, lo]

def marks : List Category := [mn, mc, me]

def numbers : List Category := [nd, nl, no]

def punctuation : List Category := [pc, pd, ps, pe, pi, pf, po]

def symbols : List Category := [sm, sc, sk, so]

def separators : List Category := [zs, zl, zp]

/-- The categories of the characters in use. -/
def assigned : List Category :=
  letters ++ marks ++ numbers ++ punctuation ++ symbols ++ separators ++ [cc, cf, cs, co]

def table : Category → Ranges
  | lu => upper.union (alternatingFrom 0)
  | ll => lower.union (alternatingFrom 1)
  | lt => title
  | lm => modifierLetter
  | lo => otherLetter
  | mn => nonspacing
  | mc => spacing
  | me => enclosing
  | nd => digit
  | nl => letterNumber
  | no => otherNumber
  | pc => connector
  | pd => dash
  | ps => opening
  | pe => closing
  | pi => initialQuote
  | pf => finalQuote
  | po => otherPunctuation
  | sm => math
  | sc => currency
  | sk => modifierSymbol
  | so => otherSymbol
  | zs => space
  | zl => lineSeparator
  | zp => paragraphSeparator
  | cc => control
  | cf => format
  | co => privateUse
  | cs => [(0xD800, 0xDFFF)]
  | cn => []

def assignedRanges : Ranges :=
  Ranges.unionAll (assigned.map table)

def ranges : Category → Ranges
  | cn => assignedRanges.complement
  | category => category.table

/-- The characters of several categories. -/
def rangesOf (categories : List Category) : Ranges :=
  Ranges.unionAll (categories.map ranges)

/-! ## Names -/

def names : Category → List String
  | lu => ["lu", "uppercaseletter"]
  | ll => ["ll", "lowercaseletter"]
  | lt => ["lt", "titlecaseletter"]
  | lm => ["lm", "modifierletter"]
  | lo => ["lo", "otherletter"]
  | mn => ["mn", "nonspacingmark"]
  | mc => ["mc", "spacingmark"]
  | me => ["me", "enclosingmark"]
  | nd => ["nd", "decimalnumber", "digit"]
  | nl => ["nl", "letternumber"]
  | no => ["no", "othernumber"]
  | pc => ["pc", "connectorpunctuation"]
  | pd => ["pd", "dashpunctuation"]
  | ps => ["ps", "openpunctuation"]
  | pe => ["pe", "closepunctuation"]
  | pi => ["pi", "initialpunctuation"]
  | pf => ["pf", "finalpunctuation"]
  | po => ["po", "otherpunctuation"]
  | sm => ["sm", "mathsymbol"]
  | sc => ["sc", "currencysymbol"]
  | sk => ["sk", "modifiersymbol"]
  | so => ["so", "othersymbol"]
  | zs => ["zs", "spaceseparator"]
  | zl => ["zl", "lineseparator"]
  | zp => ["zp", "paragraphseparator"]
  | cc => ["cc", "control", "cntrl"]
  | cf => ["cf", "format"]
  | cs => ["cs", "surrogate"]
  | co => ["co", "privateuse"]
  | cn => ["cn", "unassigned"]

def all : List Category :=
  assigned ++ [cn]

/-- The names of groups of categories. -/
def groups : List (List String × List Category) :=
  [(["lc", "casedletter"], [lu, ll, lt]),
    (["l", "letter"], letters),
    (["m", "mark", "combiningmark"], marks),
    (["n", "number"], numbers),
    (["p", "punctuation", "punct"], punctuation),
    (["s", "symbol"], symbols),
    (["z", "separator"], separators),
    (["c", "other"], [cc, cf, cs, co, cn])]

/-- The categories that a name stands for. -/
def named? (name : String) : Option (List Category) :=
  match all.find? (·.names.contains name) with
  | some category => some [category]
  | none => (groups.find? (·.1.contains name)).map (·.2)

end Category

end SchemaShell.Unicode
