import SchemaShell.Proofs.Command.Clause

/-!
# Reading DELETE FROM and UPDATE

Both end in a WHERE clause, and so in the value that a column is compared with. The value goes on to the
end of its word. All that stands in front of it can be read in one way only.
-/

namespace SchemaShell.Command

open Pattern Shape Written

/-! ## Written forms -/

namespace Written

structure DeleteFrom where
  opening : Opening .deleteFrom
  beforeTable : Space
  table : Name
  beforeFilter : Space
  filter : Filter

namespace DeleteFrom

def body (f : DeleteFrom) : List Char :=
  f.beforeTable ++ (f.table ++ (f.beforeFilter ++ f.filter.text))

def text (f : DeleteFrom) : List Char :=
  f.opening ++ f.body

def parts (f : DeleteFrom) : List (Field × List Char) :=
  (.table, f.table) :: f.filter.equation.parts .column .value

def command (f : DeleteFrom) (tail : List Char) : Command :=
  ofReading .deleteFrom ⟨f.text ++ tail.takeWhile Text.isBlank, f.parts, tail.dropWhile Text.isBlank⟩

theorem captures_command (f : DeleteFrom) (tail : List Char) :
    (f.command tail).captures =
      [(.table, String.ofList f.table), (.column, String.ofList f.filter.equation.column),
        (.value, String.ofList f.filter.equation.value)] := rfl

structure CutOf (f whole : DeleteFrom) : Prop where
  table : f.table = whole.table
  equation : f.filter.equation.CutOf whole.filter.equation

theorem exists_whole {text : List Char} {f : DeleteFrom} (h : f.text <+: text) :
    ∃ whole : DeleteFrom, ∃ tail, text = whole.text ++ tail ∧ StartsApart tail ∧ f.CutOf whole := by
  obtain ⟨rest, rfl⟩ := h
  obtain ⟨filter, tail, hsplit, hapart, hcut⟩ := f.filter.exists_whole rest
  refine ⟨{ f with filter := filter }, tail, ?_, hapart, rfl, hcut⟩
  simp only [DeleteFrom.text, body, List.append_assoc, hsplit]

theorem CutOf.of_command {f whole other : DeleteFrom} {tail more : List Char} (h : f.CutOf whole)
    (hcommand : whole.command tail = other.command more) : f.CutOf other := by
  have hcaptures := congrArg captures hcommand
  simp only [captures_command, List.cons.injEq, Prod.mk.injEq, String.ofList_inj, true_and, and_true,
    ← Subtype.ext_iff] at hcaptures
  obtain ⟨htable, hcolumn, hvalue⟩ := hcaptures
  exact ⟨h.table.trans htable, h.equation.column.trans hcolumn, hvalue ▸ h.equation.value⟩

end DeleteFrom

structure Update where
  opening : Opening .update
  beforeTable : Space
  table : Name
  beforeSet : Space
  set : Keyword "SET"
  afterSet : Space
  change : Equation
  beforeFilter : Space
  filter : Filter

namespace Update

def body (f : Update) : List Char :=
  f.beforeTable ++ (f.table ++ (f.beforeSet ++ (f.set ++ (f.afterSet ++ (f.change.text ++
    (f.beforeFilter ++ f.filter.text))))))

def text (f : Update) : List Char :=
  f.opening ++ f.body

def parts (f : Update) : List (Field × List Char) :=
  (.table, f.table) ::
    (f.change.parts .setColumn .setValue ++ f.filter.equation.parts .whereColumn .whereValue)

def command (f : Update) (tail : List Char) : Command :=
  ofReading .update ⟨f.text ++ tail.takeWhile Text.isBlank, f.parts, tail.dropWhile Text.isBlank⟩

theorem captures_command (f : Update) (tail : List Char) :
    (f.command tail).captures =
      [(.table, String.ofList f.table), (.setColumn, String.ofList f.change.column),
        (.setValue, String.ofList f.change.value), (.whereColumn, String.ofList f.filter.equation.column),
        (.whereValue, String.ofList f.filter.equation.value)] := rfl

structure CutOf (f whole : Update) : Prop where
  table : f.table = whole.table
  changedColumn : f.change.column = whole.change.column
  newValue : f.change.value = whole.change.value
  equation : f.filter.equation.CutOf whole.filter.equation

theorem exists_whole {text : List Char} {f : Update} (h : f.text <+: text) :
    ∃ whole : Update, ∃ tail, text = whole.text ++ tail ∧ StartsApart tail ∧ f.CutOf whole := by
  obtain ⟨rest, rfl⟩ := h
  obtain ⟨filter, tail, hsplit, hapart, hcut⟩ := f.filter.exists_whole rest
  refine ⟨{ f with filter := filter }, tail, ?_, hapart, rfl, rfl, rfl, hcut⟩
  simp only [Update.text, body, List.append_assoc, hsplit]

theorem CutOf.of_command {f whole other : Update} {tail more : List Char} (h : f.CutOf whole)
    (hcommand : whole.command tail = other.command more) : f.CutOf other := by
  have hcaptures := congrArg captures hcommand
  simp only [captures_command, List.cons.injEq, Prod.mk.injEq, String.ofList_inj, true_and, and_true,
    ← Subtype.ext_iff] at hcaptures
  obtain ⟨htable, hchanged, hnew, hcolumn, hvalue⟩ := hcaptures
  exact ⟨h.table.trans htable, h.changedColumn.trans hchanged, h.newValue.trans hnew,
    h.equation.column.trans hcolumn, hvalue ▸ h.equation.value⟩

end Update

end Written

variable {line : String} {command : Command} {text tail : List Char} {parts : List (Field × List Char)}

/-! ## DELETE FROM -/

namespace Shape

def deletion : Shape := inOrder [blanks, word .table, blanks, filter .column .value]

theorem body_deleteFrom :
    Kind.deleteFrom.body = inOrder
      ([blanks, word .table, blanks, keyword "WHERE", blanks, equation .column .value] ++ [gap]) := rfl

theorem derives_deletion (f : DeleteFrom) : deletion.Derives f.body f.parts := by
  simp only [deletion, inOrder, plain_blanks.seq_iff_exists, derives_word_seq, derives_filter]
  exact ⟨f.beforeTable, _, rfl, f.table, _, _, rfl, rfl, f.beforeFilter, _, rfl, f.filter, rfl, rfl⟩

end Shape

theorem exists_deleteFrom_of_fits (h : validate .deleteFrom line = .ok command) :
    ∃ f : DeleteFrom, f.text <+: normalize line := by
  obtain ⟨opening, r, htext, hfront⟩ := exists_front_of_fits body_deleteFrom h
  change deletion.Derives r.taken r.parts at hfront
  simp only [deletion, inOrder, plain_blanks.seq_iff_exists, derives_word_seq, derives_filter] at hfront
  obtain ⟨beforeTable, _, htaken, table, _, _, rfl, -, beforeFilter, _, rfl, filter, rfl, -⟩ := hfront
  refine ⟨⟨opening, beforeTable, table, beforeFilter, filter⟩, r.rest, ?_⟩
  rw [htext, htaken]
  simp [DeleteFrom.text, DeleteFrom.body]

theorem validate_of_deleteFrom {f : DeleteFrom} (htext : normalize line = f.text ++ tail)
    (hapart : StartsApart tail) : validate .deleteFrom line = .ok (f.command tail) :=
  validate_of_endsInWord body_deleteFrom (fun _ => rfl) (derives_deletion f) htext hapart

theorem validate_deleteFrom_eq_ok_iff :
    validate .deleteFrom line = .ok command ↔
      ∃ (f : DeleteFrom) (tail : List Char), normalize line = f.text ++ tail ∧ StartsApart tail ∧
        command = f.command tail := by
  refine validate_eq_ok_iff_of_forms (fun _ => exists_deleteFrom_of_fits) (fun f hf => ?_)
    (fun _ _ => validate_of_deleteFrom)
  obtain ⟨whole, tail, htext, hapart, -⟩ := DeleteFrom.exists_whole hf
  exact ⟨whole, tail, htext, hapart⟩

/-! ## UPDATE -/

namespace Shape

def revision : Shape :=
  inOrder
    [blanks, word .table, blanks, keyword "SET", blanks, equation .setColumn .setValue, blanks,
      filter .whereColumn .whereValue]

theorem body_update :
    Kind.update.body = inOrder
      ([blanks, word .table, blanks, keyword "SET", blanks, equation .setColumn .setValue, blanks,
        keyword "WHERE", blanks, equation .whereColumn .whereValue] ++ [gap]) := rfl

theorem derives_revision (f : Update) : revision.Derives f.body f.parts := by
  simp only [revision, inOrder, plain_blanks.seq_iff_exists, derives_word_seq,
    (plain_keyword "SET").seq_iff_exists, derives_equation_seq, derives_filter]
  exact ⟨f.beforeTable, _, rfl, f.table, _, _, rfl, rfl, f.beforeSet, _, rfl, f.set, _, rfl, f.afterSet, _,
    rfl, f.change, _, _, rfl, rfl, f.beforeFilter, _, rfl, f.filter, rfl, rfl⟩

end Shape

theorem exists_update_of_fits (h : validate .update line = .ok command) :
    ∃ f : Update, f.text <+: normalize line := by
  obtain ⟨opening, r, htext, hfront⟩ := exists_front_of_fits body_update h
  change revision.Derives r.taken r.parts at hfront
  simp only [revision, inOrder, plain_blanks.seq_iff_exists, derives_word_seq,
    (plain_keyword "SET").seq_iff_exists, derives_equation_seq, derives_filter] at hfront
  obtain ⟨beforeTable, _, htaken, table, _, _, rfl, -, beforeSet, _, rfl, set, _, rfl, afterSet, _, rfl,
    change, _, _, rfl, -, beforeFilter, _, rfl, filter, rfl, -⟩ := hfront
  refine ⟨⟨opening, beforeTable, table, beforeSet, set, afterSet, change, beforeFilter, filter⟩, r.rest, ?_⟩
  rw [htext, htaken]
  simp [Update.text, Update.body]

theorem validate_of_update {f : Update} (htext : normalize line = f.text ++ tail)
    (hapart : StartsApart tail) : validate .update line = .ok (f.command tail) :=
  validate_of_endsInWord body_update (fun _ => rfl) (derives_revision f) htext hapart

theorem validate_update_eq_ok_iff :
    validate .update line = .ok command ↔
      ∃ (f : Update) (tail : List Char), normalize line = f.text ++ tail ∧ StartsApart tail ∧
        command = f.command tail := by
  refine validate_eq_ok_iff_of_forms (fun _ => exists_update_of_fits) (fun f hf => ?_)
    (fun _ _ => validate_of_update)
  obtain ⟨whole, tail, htext, hapart, -⟩ := Update.exists_whole hf
  exact ⟨whole, tail, htext, hapart⟩

end SchemaShell.Command
