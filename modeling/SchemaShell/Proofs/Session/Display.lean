import SchemaShell.Proofs.Schema.Creation
import SchemaShell.Proofs.Session.Reachable

/-!
# What is shown of a table tells it

The lines that are shown for a table have no quotes and no count. Still, as long as its names and defaults
stay on one line each, they can only be read back as this table, even if a name or a default looks like
a label or a ruler.
-/

namespace SchemaShell

theorem Text.decimal_injective {n m : Nat} (h : decimal n = decimal m) : n = m := by
  have hdigits : Nat.toDigits 10 n = Nat.toDigits 10 m := String.ofList_injective h
  rw [← decimalValue_toDigits n, hdigits, decimalValue_toDigits]

namespace Schema

/-- The text has no line feed. -/
def OneLine (text : String) : Prop :=
  '\n' ∉ text.toList

instance (text : String) : Decidable (OneLine text) :=
  inferInstanceAs (Decidable ('\n' ∉ text.toList))

structure Column.OnLines (column : Column) : Prop where
  name : OneLine column.name
  default : OneLine column.default

/-- The name of the table and the names and defaults of its columns stay on one line each. -/
structure Table.OnLines (table : Table) : Prop where
  name : OneLine table.name
  columns : ∀ column ∈ table.columns, column.OnLines

variable {table other : Table} {column : Column}

/-! ## The lines of the text -/

theorem oneLine_append {first second : String} (h : OneLine first) (h' : OneLine second) :
    OneLine (first ++ second) := by
  unfold OneLine
  rw [String.toList_append, List.mem_append]
  exact not_or.mpr ⟨h, h'⟩

theorem oneLine_of_alphanum {text : String} (h : ∀ c ∈ text.toList, c.isAlphanum = true) : OneLine text :=
  fun hmem => absurd (h '\n' hmem) (by decide)

theorem oneLine_decimal (n : Nat) : OneLine (Text.decimal n) := by
  refine oneLine_of_alphanum fun c hc => ?_
  rw [Text.decimal, String.toList_ofList] at hc
  exact Text.isAlphanum_of_isDigit ((Command.Written.digits_toDigits n).2 c hc)

theorem oneLine_typeName (type : ValueType) : OneLine type.name := by
  cases type <;> decide

theorem Column.OnLines.oneLine (h : column.OnLines) : ∀ line ∈ column.lines, OneLine line := by
  simp only [Column.lines, List.forall_mem_cons]
  refine ⟨oneLine_append (by decide) h.name, oneLine_append (by decide) (oneLine_typeName _),
    oneLine_append (by decide) (oneLine_decimal _), oneLine_append (by decide) h.default, by decide, ?_⟩
  exact List.forall_mem_nil _

theorem Table.OnLines.oneLine (h : table.OnLines) : ∀ line ∈ table.lines, OneLine line := by
  rw [Table.lines, List.forall_mem_cons]
  refine ⟨oneLine_append (oneLine_append (by decide) h.name) (by decide), fun line hline => ?_⟩
  obtain ⟨column, hcolumn, hline⟩ := List.mem_flatMap.mp hline
  exact (h.columns column hcolumn).oneLine line hline

theorem Table.OnLines.splitOn_display (h : table.OnLines) :
    table.display.toList.splitOn '\n' = table.lines.map String.toList := by
  rw [Table.display, String.toList_intercalate]
  refine List.splitOn_intercalate '\n' ?_ (by simp [Table.lines])
  exact List.forall_mem_map.mpr h.oneLine

theorem Table.OnLines.lines_eq (h : table.OnLines) (h' : other.OnLines)
    (hdisplay : table.display = other.display) : table.lines = other.lines := by
  have hlines := h.splitOn_display
  rw [hdisplay, h'.splitOn_display] at hlines
  exact ((List.map_injective_iff.mpr fun _ _ => String.toList_inj.mp) hlines).symm

/-! ## What the lines tell -/

theorem ValueType.name_injective {type other : ValueType} (h : type.name = other.name) : type = other := by
  have hword := ofWord?_name type
  rw [h, ofWord?_name] at hword
  exact (Option.some.inj hword).symm

theorem Column.lines_injective {column other : Column} (h : column.lines = other.lines) : column = other := by
  obtain ⟨name, type, size, default⟩ := column
  obtain ⟨name', type', size', default'⟩ := other
  simp only [Column.lines, List.cons.injEq, String.append_right_inj, and_true] at h
  obtain ⟨rfl, htype, hsize, rfl⟩ := h
  rw [ValueType.name_injective htype, UInt64.toNat_inj.mp (Text.decimal_injective hsize)]

theorem columnLines_injective {columns others : List Column}
    (h : columns.flatMap Column.lines = others.flatMap Column.lines) : columns = others := by
  induction columns generalizing others with
  | nil =>
    cases others with
    | nil => rfl
    | cons other others => cases h
  | cons column columns ih =>
    cases others with
    | nil => cases h
    | cons other others =>
      rw [List.flatMap_cons, List.flatMap_cons] at h
      obtain ⟨hfirst, hrest⟩ := List.append_inj h rfl
      rw [Column.lines_injective hfirst, ih hrest]

theorem Table.lines_injective (h : table.lines = other.lines) : table = other := by
  obtain ⟨name, columns⟩ := table
  obtain ⟨name', columns'⟩ := other
  obtain ⟨hname, hcolumns⟩ := List.cons.inj h
  rw [String.append_left_inj, String.append_right_inj] at hname
  obtain rfl : name = name' := hname
  obtain rfl : columns = columns' := columnLines_injective hcolumns
  rfl

theorem Table.WellFormed.onLines (h : table.WellFormed) : table.OnLines where
  name := oneLine_of_alphanum h.name.word.2
  columns column hcolumn :=
    have hw := h.columns column hcolumn
    ⟨oneLine_of_alphanum hw.name.word.2, oneLine_of_alphanum hw.default.2⟩

end Schema

namespace Session

open Schema

variable {σ : Type}

/-- Two tables of which the same is shown are the same, down to the last column, if their names and defaults
have no line feed. No table that a session can come to hold has one. -/
theorem display_is_faithful (handler : Handler σ) (handlerState : σ) (lines : List String) :
    (∀ table other : Table, table.OnLines → other.OnLines → table.display = other.display → table = other) ∧
    ∀ name table,
      ((start handlerState).processAll handler lines).catalog.store.get? name = some table →
        table.OnLines := by
  constructor
  · intro table other h h' hdisplay
    exact Table.lines_injective (h.lines_eq h' hdisplay)
  · intro name table htable
    exact ((consistent_reachable handler handlerState lines).wellFormed name table htable).onLines

theorem display_is_faithful_to_labels :
    let session := (start ()).processAll .deferring ["CREATE TABLE Size ((Default, string, 5, Type))"]
    let table : Table := ⟨"Size", [⟨"Default", .string, 5, "Type"⟩]⟩
    ∃ stored, session.catalog.store.get? "Size" = some stored ∧ stored.OnLines ∧ table.OnLines ∧
      stored.display = table.display ∧ stored = table := by
  intro session table
  have hstored : session.catalog.store.get? "Size" = some table := rfl
  have htable : table.OnLines := ⟨by decide, List.forall_mem_singleton.mpr ⟨by decide, by decide⟩⟩
  obtain ⟨htells, hreachable⟩ :=
    display_is_faithful .deferring () ["CREATE TABLE Size ((Default, string, 5, Type))"]
  have honLines : table.OnLines := hreachable "Size" table hstored
  exact ⟨table, hstored, honLines, htable, rfl, htells table table honLines htable rfl⟩

/-- A default with line feeds can look like one more column. -/
example :
    Table.display ⟨"t", [⟨"a", .number, 1, "0\n~~~~~~~~~~~~~~~~\nColumn name: b\nType: number\nSize: 1\nDefault: 0"⟩]⟩ =
      Table.display ⟨"t", [⟨"a", .number, 1, "0"⟩, ⟨"b", .number, 1, "0"⟩]⟩ := by decide

end Session

end SchemaShell
