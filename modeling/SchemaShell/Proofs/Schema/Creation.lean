import SchemaShell.Proofs.Command.CreateTable
import SchemaShell.Proofs.Command.Opening
import SchemaShell.Proofs.Schema.ColumnBlock

/-!
# The line that creates a table

A well-formed table can be written out as a CREATE TABLE line. The line is read back as a command
that builds the same table, whatever its name spells.
-/

namespace SchemaShell

open Command Written

/-! ## Sizes in decimal -/

theorem Text.decimalValue_toDigits (n : Nat) : decimalValue (Nat.toDigits 10 n) = n := by
  have hvalue := Nat.ofDigitChars_ten_toDigits (n := n)
  rwa [Nat.ofDigitChars_eq_foldl] at hvalue

theorem Command.Written.digits_toDigits (n : Nat) : Digits (Nat.toDigits 10 n) :=
  ⟨Nat.toDigits_ne_nil, fun _ hc => Nat.isDigit_of_mem_toDigits (by omega) (by omega) hc⟩

namespace Schema

/-! ## The text of a table -/

def Column.written (column : Column) : String :=
  "(" ++ ", ".intercalate [column.name, column.type.name, Text.decimal column.size.toNat, column.default] ++
    ")"

/-- The line that creates the table. -/
def Table.creation (table : Table) : String :=
  " ".intercalate ["CREATE", "TABLE", table.name, "(", ", ".intercalate (table.columns.map Column.written), ")"]

example : Table.creation ⟨"t", [⟨"a", .number, 10, "0"⟩, ⟨"b", .string, 5, "x"⟩]⟩ =
    "CREATE TABLE t ( (a, number, 10, 0), (b, string, 5, x) )" := by decide

theorem toList_creation (table : Table) :
    table.creation.toList = "CREATE TABLE ".toList ++ (table.name.toList ++ (" ( ".toList ++
      ((", ".intercalate (table.columns.map Column.written)).toList ++ " )".toList))) := by
  rw [Table.creation, String.toList_intercalate]
  simp [List.intercalate_cons_cons]

theorem head?_creation (table : Table) : table.creation.toList.head? = some 'C' := by
  rw [toList_creation]
  rfl

theorem getLast?_creation (table : Table) : table.creation.toList.getLast? = some ')' := by
  simp only [toList_creation, ← List.append_assoc]
  rw [List.getLast?_append]
  rfl

theorem normalize_creation (table : Table) : normalize table.creation = table.creation.toList :=
  normalize_eq_toList (head?_creation table) (getLast?_creation table) (by decide) (by decide) (by decide)

theorem letters_typeName (type : ValueType) : Letters type.name.toList := by
  cases type <;> exact ⟨by decide, List.all_eq_true.mp rfl⟩

theorem isNamedBy_name (type : ValueType) : type.IsNamedBy type.name.toList := by
  unfold ValueType.IsNamedBy
  cases type <;> decide

def oneBlank : Gap := ⟨[' '], by simp [Blanks, Text.isBlank]⟩

/-- The record that `Column.written` writes, with what stands after it. -/
def Column.record (column : Column) (h : column.WellFormed) (after : Gap) (comma? : Option Gap) :
    ColumnRecord where
  name := ⟨noGap, column.name.toList, noGap, h.name⟩
  type := ⟨oneBlank, column.type.name.toList, noGap, letters_typeName column.type⟩
  size := ⟨oneBlank, Nat.toDigits 10 column.size.toNat, noGap, digits_toDigits _⟩
  default := ⟨oneBlank, column.default.toList, noGap, h.default⟩
  after := after
  comma? := comma?

variable {column : Column} {table : Table}

theorem text_record (h : column.WellFormed) (after : Gap) (comma? : Option Gap) :
    (column.record h after comma?).text =
      column.written.toList ++ (after ++ ColumnRecord.commaText comma?) := by
  simp [Column.record, Column.written, ColumnRecord.text, Spaced.whole, noGap, oneBlank, Text.decimal]

theorem describes_record (h : column.WellFormed) (after : Gap) (comma? : Option Gap) :
    Describes (column.record h after comma?) column where
  name := String.ofList_toList.symm
  type := isNamedBy_name column.type
  size := (Text.decimalValue_toDigits _).symm
  default := String.ofList_toList.symm

theorem exists_records_of_columns {columns : List Column} (hne : columns ≠ [])
    (hw : ∀ column ∈ columns, column.WellFormed) :
    ∃ rs : List ColumnRecord, List.Forall₂ Describes rs columns ∧
      rs.flatMap ColumnRecord.text = (", ".intercalate (columns.map Column.written)).toList ++ [' '] := by
  induction columns with
  | nil => exact absurd rfl hne
  | cons column columns ih =>
    have hcolumn := hw column (by simp)
    cases columns with
    | nil =>
      refine ⟨[column.record hcolumn oneBlank none], .cons (describes_record _ _ _) .nil, ?_⟩
      simp [text_record, ColumnRecord.commaText, oneBlank]
    | cons next columns =>
      obtain ⟨rs, hrs, htext⟩ := ih (by simp) fun c hc => hw c (by simp [hc])
      refine ⟨column.record hcolumn noGap (some oneBlank) :: rs, .cons (describes_record _ _ _) hrs, ?_⟩
      rw [List.flatMap_cons, htext, text_record]
      simp [ColumnRecord.commaText, noGap, oneBlank, String.toList_intercalate]

/-! ## Reading the line -/

theorem phrase_createTable : Phrase ["CREATE", "TABLE"] "CREATE TABLE".toList :=
  ⟨"CREATE".toList, [' '], "TABLE".toList, rfl, by simp, oneBlank.2, rfl, rfl⟩

/-- The form of a line with one blank between two parts and no clause. -/
def formOf (name : List Char) (isName : Identifier name) (rs : List ColumnRecord) (hrs : rs ≠ []) :
    CreateTable where
  opening := "CREATE TABLE".toList
  isOpening := phrase_createTable
  beforeName := oneBlank
  beforeName_ne_nil := by simp [oneBlank]
  name := name
  isName := isName
  body :=
    { afterName := oneBlank, clause? := none, afterClause := noGap, afterOpening := oneBlank
      columns := rs, columns_ne_nil := hrs, beforeClosing := noGap }

section

variable {name : List Char} {isName : Identifier name} {rs : List ColumnRecord} {hrs : rs ≠ []}

theorem block_formOf : (formOf name isName rs hrs).body.block = rs.flatMap ColumnRecord.text :=
  List.append_nil _

theorem text_formOf :
    (formOf name isName rs hrs).text =
      "CREATE TABLE ".toList ++ (name ++ (" ( ".toList ++ (rs.flatMap ColumnRecord.text ++ [')']))) := by
  rw [CreateTable.text, TableBody.text, block_formOf]
  rfl

end

theorem exists_form_of_table (h : table.WellFormed) :
    ∃ f : CreateTable, f.text = table.creation.toList ∧ f.name = table.name.toList ∧
      f.body.clause? = none ∧ ∀ name, build name (String.ofList f.body.block) = .ok ⟨name, table.columns⟩ := by
  obtain ⟨rs, hdescribes, htext⟩ := exists_records_of_columns h.columns_ne_nil h.columns
  have hrs : rs ≠ [] := by
    rintro rfl
    exact h.columns_ne_nil (List.forall₂_nil_left_iff.mp hdescribes)
  refine ⟨formOf table.name.toList h.name rs hrs, ?_, rfl, rfl, fun name => ?_⟩
  · rw [text_formOf, htext, toList_creation]
    simp
  · rw [block_formOf]
    exact build_of_describes name hdescribes

end Schema

end SchemaShell
