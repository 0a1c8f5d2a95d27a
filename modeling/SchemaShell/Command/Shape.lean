import SchemaShell.Command.Field
import SchemaShell.Command.Kind
import SchemaShell.Pattern.Basic

/-!
# The shapes of commands

For each kind two patterns: its opening, by which a line is taken for a command of the kind, and its
shape, which names the fields. Both start at the front of the line.
-/

namespace SchemaShell.Command

open Pattern

abbrev Shape := Pattern Field

namespace Shape

/-! ## Pieces -/

/-- Blanks that have to be there. -/
def blanks : Shape := run .blank 1

/-- Blanks that may be missing. -/
def gap : Shape := run .blank 0

def word (field : Field) : Shape := part field (run .alphanumeric 1)

def identifier : Shape := seq (one .letter) (run .alphanumeric 0)

/-- An identifier that runs into the clause after it (`tIF NOT EXISTS`), less the letters `IF`. -/
def shortIdentifier : Shape := seq (one .letter) (shortRun .alphanumeric 2)

def phrase (words : List String) : Shape :=
  inOrder ((words.map keyword).intersperse blanks)

/-- A mark with blanks around it. -/
def spaced (c : Char) : Shape := inOrder [gap, mark c, gap]

def ifNotExists : Shape := part .ifNotExists (phrase ["IF", "NOT", "EXISTS"])

/-- A word, and any words and blanks that follow it before the next comma. -/
def item : Shape := seq (run .alphanumeric 1) (run .alphanumericOrBlank 0)

/-- Items with one comma between two of them, and perhaps one after the last. -/
def items (field : Field) : Shape :=
  part field <| inOrder
    [gap, item, many (inOrder [mark ',', gap, item]), optional (seq (mark ',') gap)]

/-- The name, type, size and default of one column, and perhaps a comma. -/
def columnRecord : Shape :=
  inOrder
    [mark '(', gap, identifier, spaced ',', run .letter 1, spaced ',', run .digit 1, spaced ',',
      run .alphanumeric 1, gap, mark ')', gap, optional (seq (mark ',') gap)]

def equation (left right : Field) : Shape :=
  inOrder [word left, spaced '=', word right]

end Shape

namespace Kind

open Shape

/-- The words that open a command, with what blanks stand before and between them. -/
def phrase (kind : Kind) : Shape :=
  seq gap (Shape.phrase kind.words)

def opening (kind : Kind) : Shape :=
  seq kind.phrase gap

/-- What a command of this kind holds after its opening words. -/
def body : Kind → Shape
  | createTable =>
    inOrder
      [blanks, part .table (either identifier shortIdentifier), gap,
        optional (seq ifNotExists gap), mark '(', gap, part .columns (oneOrMore columnRecord),
        mark ')']
  | createIndex =>
    inOrder
      [either (inOrder [gap, ifNotExists, blanks]) blanks, word .index, blanks, keyword "ON",
        blanks, word .table, gap, mark '(', gap, word .column, gap, mark ')']
  | dropTable | displayTable => inOrder [blanks, word .table, gap]
  | dropIndex => inOrder [blanks, word .index, gap]
  | insertInto =>
    inOrder
      [blanks, word .table, blanks, keyword "VALUES", gap, mark '(', items .values, mark ')', gap]
  | deleteFrom =>
    inOrder
      [blanks, word .table, blanks, keyword "WHERE", blanks, equation .column .value, gap]
  | select =>
    inOrder
      [gap, either (inOrder [mark '(', items .columns, mark ')']) (part .all (keyword "ALL")), gap,
        keyword "FROM", blanks, word .table, gap,
        optional (inOrder [keyword "WHERE", blanks, equation .column .value])]
  | update =>
    inOrder
      [blanks, word .table, blanks, keyword "SET", blanks, equation .setColumn .setValue, blanks,
        keyword "WHERE", blanks, equation .whereColumn .whereValue, gap]

def shape (kind : Kind) : Shape :=
  seq kind.phrase kind.body

def fields (kind : Kind) : List Field :=
  kind.shape.names

end Kind

end SchemaShell.Command
