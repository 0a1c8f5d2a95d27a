import SchemaShell.Schema.Fields
import SchemaShell.Schema.Table

/-!
# Building a schema

The fields of a column block are taken four at a time: name, type, size and default of a column.
Fields left over refuse the whole block before any column is looked at; else the first column with
a bad type or size does, its type being looked at first.
-/

namespace SchemaShell.Schema

inductive BuildError where
  | incompleteColumn (table : String) (leftover : Nat)
  | unknownType (word : String)
  | invalidSize (word : String)
  deriving DecidableEq, Repr

namespace BuildError

def message : BuildError → String
  | incompleteColumn table leftover =>
    "Column definition of table " ++ table ++ " is incomplete: " ++ Text.decimal leftover ++
      " trailing field(s)."
  | unknownType word => "Type of column must be number or string, found '" ++ word ++ "'."
  | invalidSize word => "Size of column must be a non-negative integer, found '" ++ word ++ "'."

end BuildError

def fieldsPerColumn : Nat := 4

def buildColumn (name type size default : String) : Except BuildError Column :=
  match ValueType.ofWord? type, Text.numeral? size.toList with
  | none, _ => .error (.unknownType type)
  | some _, none => .error (.invalidSize size)
  | some type, some size => .ok ⟨name, type, size, default⟩

/-- The columns of the whole records at the front of a list of fields. -/
def buildColumns : List String → Except BuildError (List Column)
  | name :: type :: size :: default :: fields => do
    let column ← buildColumn name type size default
    let columns ← buildColumns fields
    return column :: columns
  | _ => return []

def build (name block : String) : Except BuildError Table :=
  let leftover := (fields block).length % fieldsPerColumn
  if leftover = 0 then
    (buildColumns (fields block)).map (Table.mk name)
  else
    .error (.incompleteColumn name leftover)

theorem buildColumn_eq_ok_iff {name type size default : String} {column : Column} :
    buildColumn name type size default = .ok column ↔
      ∃ t n, ValueType.ofWord? type = some t ∧ Text.numeral? size.toList = some n ∧
        column = ⟨name, t, n, default⟩ := by
  cases ht : ValueType.ofWord? type <;> cases hn : Text.numeral? size.toList <;>
    simp [buildColumn, ht, hn, eq_comm]

end SchemaShell.Schema
