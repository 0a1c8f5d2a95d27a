import SchemaShell.Text.Case
import SchemaShell.Text.Numeral

/-!
# Tables

The schema of a table: its name and its columns, each with a type, a size and a default, which is
kept as it was written. `Table.display` is the text that is shown for a table.
-/

namespace SchemaShell.Schema

/-! ## Types -/

inductive ValueType where
  | number
  | string
  deriving DecidableEq, Repr

namespace ValueType

def code : ValueType → Nat
  | number => 1
  | string => 2

def name : ValueType → String
  | number => "number"
  | string => "string"

/-- The type that a word names, in any mixture of capitals and small letters. -/
def ofWord? (word : String) : Option ValueType :=
  let lowered := Text.lower word.toList
  if lowered = "number".toList then some number
  else if lowered = "string".toList then some string
  else none

theorem ofWord?_eq_some_iff_lower {word : String} {type : ValueType} :
    ofWord? word = some type ↔ Text.lower word.toList = type.name.toList := by
  have hne : number.name.toList ≠ string.name.toList := by decide
  unfold ofWord?
  constructor
  · intro hword
    dsimp only at hword
    split at hword
    · next hlowered => exact Option.some.inj hword ▸ hlowered
    split at hword
    · next hlowered => exact Option.some.inj hword ▸ hlowered
    · cases hword
  · intro hlowered
    cases type with
    | number => exact if_pos hlowered
    | string => exact (if_neg fun hnumber => hne (hnumber.symm.trans hlowered)).trans (if_pos hlowered)

theorem ofWord?_name (type : ValueType) : ofWord? type.name = some type := by
  cases type <;> decide

end ValueType

/-! ## Columns and tables -/

structure Column where
  name : String
  type : ValueType
  size : UInt64
  default : String
  deriving DecidableEq, Repr

structure Table where
  name : String
  columns : List Column
  deriving DecidableEq, Repr

def Column.lines (column : Column) : List String :=
  ["Column name: " ++ column.name,
    "Type: " ++ column.type.name,
    "Size: " ++ Text.decimal column.size.toNat,
    "Default: " ++ column.default,
    "~~~~~~~~~~~~~~~~"]

def Table.lines (table : Table) : List String :=
  ("------ <" ++ table.name ++ "> ------") :: table.columns.flatMap Column.lines

/-- The lines of a table, with a line feed between two of them. -/
def Table.display (table : Table) : String :=
  "\n".intercalate table.lines

end SchemaShell.Schema
