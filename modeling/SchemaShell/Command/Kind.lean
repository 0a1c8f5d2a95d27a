/-!
# The kinds of command

Each of the nine kinds is told by the words that open it. The form that is expected after them is
shown to the user when a line starts like a command and then goes wrong.
-/

namespace SchemaShell.Command

inductive Kind where
  | createTable
  | createIndex
  | dropTable
  | dropIndex
  | displayTable
  | insertInto
  | deleteFrom
  | select
  | update
  deriving DecidableEq, Repr

namespace Kind

/-- All kinds, in the order in which a line is compared with them. -/
def all : List Kind :=
  [createTable, createIndex, dropTable, dropIndex, displayTable, insertInto, deleteFrom, select,
    update]

theorem mem_all (kind : Kind) : kind ∈ all := by
  cases kind <;> decide

def index (kind : Kind) : Nat :=
  kind.ctorIdx

def words : Kind → List String
  | createTable => ["CREATE", "TABLE"]
  | createIndex => ["CREATE", "INDEX"]
  | dropTable => ["DROP", "TABLE"]
  | dropIndex => ["DROP", "INDEX"]
  | displayTable => ["DISPLAY", "TABLE"]
  | insertInto => ["INSERT", "INTO"]
  | deleteFrom => ["DELETE", "FROM"]
  | select => ["SELECT"]
  | update => ["UPDATE"]

def name (kind : Kind) : String :=
  " ".intercalate kind.words

/-- The form of a whole command, as it is shown to the user. -/
def expectedFormat : Kind → String
  | createTable =>
    "CREATE TABLE table_name [IF NOT EXISTS] ( (column_name1, type, size, default_value1), " ++
      "(column_name1, type, size, default_value1)... )"
  | createIndex =>
    "CREATE INDEX [IF NOT EXISTS] index_name ON table_name (column_name) - " ++
      "creates an index only on a single column"
  | dropTable => "DROP TABLE table_name"
  | dropIndex => "DROP INDEX index_name"
  | displayTable => "DISPLAY TABLE table_name"
  | insertInto =>
    "INSERT INTO table VALUES(...); values are separated by , and they have the exact number " ++
      "and order as the table definition"
  | deleteFrom =>
    "DELETE FROM table_name WHERE column_name = value " ++
      "(deletes allows only one column in the where clause)"
  | select =>
    "SELECT (at_least_one_column, ...) | ALL FROM table_name [WHERE column_name = value] - " ++
      "the where clause is optional"
  | update =>
    "UPDATE table_name SET column_name = value WHERE  column_name = value " ++
      "(the SET column may be different than the WHERE one)"

end Kind

end SchemaShell.Command
