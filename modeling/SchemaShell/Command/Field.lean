/-!
# The fields of a command

The parts of a line that a command keeps. Each field has a label, by which a handler may ask for it.
-/

namespace SchemaShell.Command

inductive Field where
  | table
  | ifNotExists
  | columns
  | index
  | column
  | values
  | all
  | value
  | setColumn
  | setValue
  | whereColumn
  | whereValue
  deriving DecidableEq, Repr

namespace Field

def every : List Field :=
  [table, ifNotExists, columns, index, column, values, all, value, setColumn, setValue,
    whereColumn, whereValue]

def label : Field → String
  | table => "table"
  | ifNotExists => "if_not_exists"
  | columns => "columns"
  | index => "index"
  | column => "column"
  | values => "values"
  | all => "all"
  | value => "value"
  | setColumn => "set_column"
  | setValue => "set_value"
  | whereColumn => "where_column"
  | whereValue => "where_value"

def ofLabel? (label : String) : Option Field :=
  every.find? (·.label == label)

theorem ofLabel?_label (field : Field) : ofLabel? field.label = some field := by
  cases field <;> decide

end Field

end SchemaShell.Command
