import SchemaShell.Proofs.Command.CreateTable
import SchemaShell.Proofs.Schema.ColumnBlock
import SchemaShell.Proofs.Session.Effect

/-!
# CREATE TABLE in a session

What the shape of CREATE TABLE lets through is a block of written records. Its fields and the table
that is built of it are therefore those of the records, and no field is ever left over.
-/

namespace SchemaShell

open Command Written Schema

variable {σ : Type} {handler : Handler σ} {session : Session σ} {line : String} {command : Command}

theorem Command.get?_columns_records (f : CreateTable) (rest : List Char) :
    ∃ rs : List ColumnRecord, rs ≠ [] ∧ (f.command rest).get? .columns = some (blockOf rs) := by
  obtain ⟨rs, hne, hblock⟩ := exists_records_of_block f.body
  exact ⟨rs, hne, by rw [get?_columns, hblock, blockOf]⟩

theorem Command.tableName_written (f : CreateTable) (rest : List Char) :
    (f.command rest).tableName = String.ofList f.name := by
  rw [tableName, get?_table, Option.getD_some]

namespace Session

/-! ## What a line says -/

theorem Reads.exists_form (h : Reads line .createTable command) :
    ∃ (f : CreateTable) (rest : List Char), command = f.command rest := by
  obtain ⟨f, rest, -, -, rfl⟩ := validate_createTable_eq_ok_iff.mp h.fits
  exact ⟨f, rest, rfl⟩

theorem Reads.wellFormed_of_build {table : Table} (h : Reads line .createTable command)
    (hbuild : build command.tableName ((command.get? .columns).getD "") = .ok table) :
    table.name = command.tableName ∧ table.WellFormed := by
  obtain ⟨f, rest, rfl⟩ := h.exists_form
  obtain ⟨rs, hrs, hcolumns⟩ := get?_columns_records f rest
  rw [hcolumns, Option.getD_some, tableName_written] at hbuild
  rw [tableName_written]
  exact wellFormed_of_build_records f.isName hrs hbuild

theorem Reads.refuses_of_build {error : BuildError} (h : Reads line .createTable command)
    (hbuild : build command.tableName ((command.get? .columns).getD "") = .error error) :
    ∃ r : ColumnRecord, Refuses r error := by
  obtain ⟨f, rest, rfl⟩ := h.exists_form
  obtain ⟨rs, -, hcolumns⟩ := get?_columns_records f rest
  rw [hcolumns, Option.getD_some] at hbuild
  rcases build_records (f.command rest).tableName rs with ⟨columns, hok, -⟩ | ⟨r, -, other, herror, hr⟩
  · cases hok.symm.trans hbuild
  · obtain rfl : other = error := Except.error.inj (herror.symm.trans hbuild)
    exact ⟨r, hr⟩

/-! ## No field is left over -/

theorem not_refuses_incompleteColumn {r : ColumnRecord} {name : String} {leftover : Nat} :
    ¬ Refuses r (.incompleteColumn name leftover) := by
  rintro ⟨⟩

theorem relayed_of_incompleteColumn {kind : Kind} {name : String} {leftover : Nat}
    (h : (session.process handler line).outcome =
      .handled kind (.error (.schema (.incompleteColumn name leftover)))) :
    kind ≠ .createTable ∧ kind ≠ .dropTable ∧ ∃ command, Reads line kind command ∧
      (handler.reply session.handlerState command).result =
        .error (.schema (.incompleteColumn name leftover)) := by
  have heffect := process_effect handler session line
  generalize session.process handler line = step at heffect h
  cases heffect with
  | badColumns reads fresh fails =>
    obtain ⟨rfl, rfl⟩ : _ ∧ _ := by simpa [refused] using h
    obtain ⟨r, hr⟩ := reads.refuses_of_build fails
    exact absurd hr not_refuses_incompleteColumn
  | handedOn reads notCreate notDrop =>
    obtain ⟨rfl, hresult⟩ : _ ∧ _ := by simpa using h
    exact ⟨notCreate, notDrop, _, reads, hresult⟩
  | _ => simp [refused] at h

/-- The block that a CREATE TABLE line keeps is one or more written records, its fields are theirs, and
it builds the columns that they describe or is refused for the type or the size of one of them. So a
session never finds fields left over: such an answer can only be relayed from a handler. -/
theorem createTable_block_is_records :
    (∀ (line : String) (command : Command), validate .createTable line = .ok command →
      ∃ rs : List ColumnRecord, rs ≠ [] ∧
        command.get? .columns = some (blockOf rs) ∧
        fields (blockOf rs) = rs.flatMap (fun r => r.tokens.map String.ofList) ∧
        ∀ name,
          (∃ columns, build name (blockOf rs) = .ok ⟨name, columns⟩ ∧
            List.Forall₂ Describes rs columns) ∨
          ∃ r ∈ rs, ∃ error, build name (blockOf rs) = .error error ∧ Refuses r error) ∧
    (∀ {σ : Type} (handler : Handler σ) (session : Session σ) line kind name leftover,
      (session.process handler line).outcome =
          .handled kind (.error (.schema (.incompleteColumn name leftover))) →
        kind ≠ .createTable ∧ kind ≠ .dropTable ∧ ∃ command, Reads line kind command ∧
          (handler.reply session.handlerState command).result =
            .error (.schema (.incompleteColumn name leftover))) ∧
    ∀ (session : Session Unit) line kind name leftover,
      (session.process .deferring line).outcome ≠
        .handled kind (.error (.schema (.incompleteColumn name leftover))) := by
  refine ⟨?_, fun _ _ _ _ _ _ h => relayed_of_incompleteColumn h, ?_⟩
  · intro line command h
    obtain ⟨f, rest, -, -, rfl⟩ := validate_createTable_eq_ok_iff.mp h
    obtain ⟨rs, hrs, hcolumns⟩ := get?_columns_records f rest
    exact ⟨rs, hrs, hcolumns, fields_records rs, fun name => build_records name rs⟩
  · intro session line kind name leftover h
    obtain ⟨-, -, command, -, hreply⟩ := relayed_of_incompleteColumn h
    cases hreply

theorem createTable_block_is_records_of_two :
    (∃ rs : List ColumnRecord, rs ≠ [] ∧ blockOf rs = "(a,number,1,0)(b,word,2,x)" ∧
      fields (blockOf rs) = rs.flatMap (fun r => r.tokens.map String.ofList)) ∧
    ∃ handler : Handler Unit, ∃ command, Reads "DROP INDEX i" .dropIndex command ∧
      (handler.reply () command).result = .error (.schema (.incompleteColumn "t" 1)) := by
  constructor
  · let command : Command :=
      { kind := .createTable
        captures := [(.table, "t"), (.ifNotExists, ""), (.columns, "(a,number,1,0)(b,word,2,x)")]
        matched := "CREATE TABLE t((a,number,1,0)(b,word,2,x))"
        remainder := "" }
    have hread : validate .createTable "CREATE TABLE t((a,number,1,0)(b,word,2,x))" = .ok command := rfl
    obtain ⟨rs, hrs, hcolumns, hfields, -⟩ := createTable_block_is_records.1 _ command hread
    refine ⟨rs, hrs, ?_, hfields⟩
    have hkept : command.get? .columns = some "(a,number,1,0)(b,word,2,x)" := rfl
    exact Option.some_inj.mp (hcolumns.symm.trans hkept)
  · let handler : Handler Unit := ⟨fun _ _ => ⟨(), .error (.schema (.incompleteColumn "t" 1)), []⟩⟩
    have hanswer : ((start ()).process handler "DROP INDEX i").outcome =
        .handled .dropIndex (.error (.schema (.incompleteColumn "t" 1))) := rfl
    obtain ⟨-, -, command, hreads, hreply⟩ := createTable_block_is_records.2.1 handler _ _ _ _ _ hanswer
    exact ⟨handler, command, hreads, hreply⟩

end Session

end SchemaShell
