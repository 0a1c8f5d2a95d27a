import SchemaShell.Proofs.Command.CreateIndex
import SchemaShell.Proofs.Command.CreateTable
import SchemaShell.Proofs.Command.Select
import SchemaShell.Proofs.Command.WordRounds
import SchemaShell.Regex.Meaning

/-!
# The commands as regular expressions

The openings and the shapes of the commands as they are written in the syntax of regular expressions, with
the labels of the fields as the names of the groups.
-/

namespace SchemaShell.Command

open Pattern Shape Regex

namespace Kind

def openingPieces : Kind → List String
  | createTable => [r"(?i-u)^\s*", r"CREATE\s+TABLE\s*"]
  | createIndex => [r"(?i-u)^\s*", r"CREATE\s+INDEX\s*"]
  | dropTable => [r"(?i-u)^\s*", r"DROP\s+TABLE\s*"]
  | dropIndex => [r"(?i-u)^\s*", r"DROP\s+INDEX\s*"]
  | displayTable => [r"(?i-u)^\s*", r"DISPLAY\s+TABLE\s*"]
  | insertInto => [r"(?i-u)^\s*", r"INSERT\s+INTO\s*"]
  | deleteFrom => [r"(?i-u)^\s*", r"DELETE\s+FROM\s*"]
  | select => [r"(?i-u)^\s*", r"SELECT\s*"]
  | update => [r"(?i-u)^\s*", r"UPDATE\s*"]

def shapePieces : Kind → List String
  | createTable =>
    [r"(?i-u)^\s*", r"CREATE\s+TABLE\s+", r"(?P<table>", r"[A-Za-z][A-Za-z0-9]*", r")\s*",
      r"(?P<if_not_exists>", r"IF\s+NOT\s+EXISTS", r")?\s*", r"\(\s*", r"(?P<columns>(?:",
      r"\(\s*", r"[A-Za-z][A-Za-z0-9]*", r"\s*,\s*", r"[A-Za-z]+", r"\s*,\s*", r"[0-9]+", r"\s*,\s*",
      r"[A-Za-z0-9]+", r"\s*\)\s*,?\s*", r")+)\s*\)"]
  | createIndex =>
    [r"(?i-u)^\s*", r"CREATE\s+INDEX\s*", r"(?P<if_not_exists>", r"IF\s+NOT\s+EXISTS", r")?\s+",
      r"(?P<index>", r"[A-Za-z0-9]+", r")\s+", r"ON\s+", r"(?P<table>", r"[A-Za-z0-9]+", r")\s*",
      r"\(\s*", r"(?P<column>", r"[A-Za-z0-9]+", r")\s*", r"\)"]
  | dropTable => [r"(?i-u)^\s*", r"DROP\s+TABLE\s+", r"(?P<table>", r"[A-Za-z0-9]+", r")\s*"]
  | dropIndex => [r"(?i-u)^\s*", r"DROP\s+INDEX\s+", r"(?P<index>", r"[A-Za-z0-9]+", r")\s*"]
  | displayTable => [r"(?i-u)^\s*", r"DISPLAY\s+TABLE\s+", r"(?P<table>", r"[A-Za-z0-9]+", r")\s*"]
  | insertInto =>
    [r"(?i-u)^\s*", r"INSERT\s+INTO\s+", r"(?P<table>", r"[A-Za-z0-9]+", r")\s+", r"VALUES\s*",
      r"\((?P<values>(?:", r"\s*[A-Za-z0-9]+\s*,?\s*", r")+)\)\s*"]
  | deleteFrom =>
    [r"(?i-u)^\s*", r"DELETE\s+FROM\s+", r"(?P<table>", r"[A-Za-z0-9]+", r")\s+", r"WHERE\s+",
      r"(?P<column>", r"[A-Za-z0-9]+", r")\s*=\s*", r"(?P<value>", r"[A-Za-z0-9]+", r")\s*"]
  | select =>
    [r"(?i-u)^\s*", r"SELECT\s*", r"(?:\((?P<columns>(?:", r"\s*[A-Za-z0-9]+\s*,?\s*", r")+)\)",
      r"|(?P<all>ALL))\s*", r"FROM\s+", r"(?P<table>", r"[A-Za-z0-9]+", r")\s*", r"(?:WHERE\s+",
      r"(?P<column>", r"[A-Za-z0-9]+", r")\s*=\s*", r"(?P<value>", r"[A-Za-z0-9]+", r"))?"]
  | update =>
    [r"(?i-u)^\s*", r"UPDATE\s+", r"(?P<table>", r"[A-Za-z0-9]+", r")\s+", r"SET\s+",
      r"(?P<set_column>", r"[A-Za-z0-9]+", r")\s*=\s*", r"(?P<set_value>", r"[A-Za-z0-9]+", r")\s+",
      r"WHERE\s+", r"(?P<where_column>", r"[A-Za-z0-9]+", r")\s*=\s*", r"(?P<where_value>",
      r"[A-Za-z0-9]+", r")\s*"]

/-- How the opening is written. -/
def openingText (kind : Kind) : List Char :=
  kind.openingPieces.flatMap String.toList

def shapeText (kind : Kind) : List Char :=
  kind.shapePieces.flatMap String.toList

/-! ## Groups -/

/-- The group that keeps a field. Groups are numbered from 1. -/
def number (kind : Kind) (field : Field) : Nat :=
  kind.fields.idxOf field + 1

/-- The names of the groups, in order. -/
def groupNames : List Char → List (List Char)
  | [] => []
  | '(' :: '?' :: 'P' :: '<' :: rest => rest.takeWhile (· ≠ '>') :: groupNames rest
  | _ :: rest => groupNames rest

theorem groupNames_shapeText (kind : Kind) :
    groupNames kind.shapeText = kind.fields.map (·.label.toList) := by
  cases kind <;> decide +kernel

/-! ## Expressions -/

end Kind

namespace Shape

/-- The clause is no part of the pattern for the blanks around it, and either may be missing. -/
def looseGuard : Shape := inOrder [gap, optional ifNotExists, blanks]

def looseClause : Shape := inOrder [gap, optional ifNotExists, gap, mark '(', gap]

def looseRecord : Shape :=
  inOrder
    [mark '(', gap, identifier, spaced ',', run .letter 1, spaced ',', run .digit 1, spaced ',',
      run .alphanumeric 1, gap, mark ')', gap, optional (mark ','), gap]

end Shape

namespace Kind

/-- A part that is made of several rounds. -/
def rounds (kind : Kind) (field : Field) (round : Shape) : Regex :=
  .captured (kind.number field) (.repeated 1 none true (round.regex kind.number))

def spell (kind : Kind) (shapes : List Shape) : Regex :=
  (inOrder shapes).regex kind.number

def openingRegex (kind : Kind) : Regex :=
  .sequence [.condition .textStart, kind.opening.regex kind.number]

def shapeRegex (kind : Kind) : Regex :=
  .sequence <| .condition .textStart ::
    match kind with
    | createTable =>
      [kind.spell [kind.phrase, blanks], kind.spell [part .table identifier], looseClause.regex kind.number,
        kind.rounds .columns looseRecord, kind.spell [gap, mark ')']]
    | createIndex => [kind.spell [kind.phrase], looseGuard.regex kind.number, indexed.regex kind.number]
    | insertInto =>
      [kind.spell [kind.phrase, blanks, word .table, blanks, keyword "VALUES", gap, mark '('],
        kind.rounds .values wordRound, kind.spell [mark ')', gap]]
    | select =>
      [kind.spell [kind.phrase, gap],
        .orElse
          (.sequence [kind.spell [mark '('], kind.rounds .columns wordRound, kind.spell [mark ')']])
          (kind.spell [part .all (keyword "ALL")]),
        kind.spell [gap, keyword "FROM", blanks, word .table, gap, optional (filter .column .value)]]
    | kind => [kind.shape.regex kind.number]

/-- Letter case is ignored, and classes are those of ASCII. -/
def mode : Mode where
  ignoreCase := true
  unicode := false

theorem meaning_openingText (kind : Kind) :
    (Tree.read kind.openingText >>= Tree.meaning {}) = .ok (kind.openingRegex, mode) := by
  cases kind <;> decide +kernel

theorem meaning_shapeText (kind : Kind) :
    (Tree.read kind.shapeText >>= Tree.meaning {}) = .ok (kind.shapeRegex, mode) := by
  cases kind <;> decide +kernel

end Kind

end SchemaShell.Command
