import SchemaShell.Proofs.Schema.Creation
import SchemaShell.Proofs.Session.DropTable
import SchemaShell.Proofs.Session.History

/-!
# Dropping undoes creating

The line that drops a table can be written for every name that a table may have. Right after the
table was created, it takes the registry and the store back to what they were.
-/

namespace SchemaShell

open Command Written Schema

variable {σ : Type} {handler : Handler σ} {session : Session σ} {line name : String}

def dropLine (name : String) : String :=
  "DROP TABLE " ++ name

/-! ## Reading the line -/

theorem phrase_dropTable : Phrase ["DROP", "TABLE"] "DROP TABLE".toList :=
  ⟨"DROP".toList, [' '], "TABLE".toList, rfl, by simp, oneBlank.2, rfl, rfl⟩

def dropForm (name : List Char) (isName : Word name) : Named .dropTable where
  opening := "DROP TABLE".toList
  isOpening := phrase_dropTable
  beforeName := oneBlank
  beforeName_ne_nil := List.cons_ne_nil _ _
  name := name
  isName := isName

theorem normalize_dropLine (h : Word name.toList) :
    normalize (dropLine name) = (dropForm name.toList h).text ++ [] := by
  obtain ⟨last, hlast⟩ := Option.isSome_iff_exists.mp (List.getLast?_isSome.mpr h.1)
  have halnum : last.isAlphanum = true := h.2 last (List.mem_of_getLast? hlast)
  have hline : (dropLine name).toList = "DROP TABLE ".toList ++ name.toList := String.toList_append
  have hend : (dropLine name).toList.getLast? = some last := by
    rw [hline, List.getLast?_append, hlast, Option.some_or]
  have hsemi : last ≠ ';' := by
    rintro rfl
    exact absurd halnum (by decide)
  have hfirst : (dropLine name).toList.head? = some 'D' := by
    rw [hline]
    rfl
  rw [normalize_eq_toList hfirst hend (by decide) (Text.isWhiteSpace_of_isAlphanum halnum) hsemi, hline,
    List.append_nil]
  rfl

theorem reads_dropLine (h : Word name.toList) :
    ∃ command, Session.Reads (dropLine name) .dropTable command ∧ command.tableName = name ∧
      command.remainder = "" := by
  have hfits : validate .dropTable (dropLine name) = .ok ((dropForm name.toList h).command .table []) :=
    validate_of_named rfl (normalize_dropLine h) (by simp [Pattern.StartsApart])
  refine ⟨(dropForm name.toList h).command .table [], ⟨classify_of_fits hfits, hfits⟩, ?_, rfl⟩
  rw [tableName, get?_named, Option.getD_some]
  exact String.ofList_toList

/-! ## What it does -/

theorem Catalog.Consistent.drop_add {catalog : Catalog} (h : catalog.Consistent) {table : Table}
    (fresh : table.name ∉ catalog.registry.names) :
    (catalog.add table).registry.names.erase table.name = catalog.registry.names ∧
      ∀ other, ((catalog.add table).store.evict table.name).get? other = catalog.store.get? other := by
  constructor
  · rw [Catalog.add, Registry.names_register, List.erase_append_right _ fresh]
    simp
  · intro other
    rw [Store.get?_evict, Catalog.add, Store.get?_put]
    by_cases hother : other = table.name
    · rw [if_pos hother, hother]
      exact (h.get?_eq_none_iff.mpr fresh).symm
    · rw [if_neg hother, if_neg hother]

namespace Session

theorem process_dropLine (handler : Handler σ) (hw : Word name.toList)
    (known : name ∈ session.catalog.registry.names) :
    session.process handler (dropLine name) =
      ⟨{ session with catalog := ⟨⟨session.catalog.registry.names.erase name⟩, session.catalog.store.evict name⟩ },
        .handled .dropTable (.ok (.tableDropped name)), [.classified .dropTable, .dropped name]⟩ := by
  obtain ⟨command, hreads, rfl, hempty⟩ := reads_dropLine hw
  exact process_dropped hreads (by simp [hempty]) known

/-- Dropping undoes creating. After a line that is answered with the creation of a table, in any session
that can be reached, the line that drops this table is answered with its end, and the registry, all that
is stored and the state of the handler are as they were. Every name of a registry can be dropped by such
a line. -/
theorem drop_undoes_creation (handler : Handler σ) (handlerState : σ) (lines : List String) :
    let session := (start handlerState).processAll handler lines
    (∀ line name clause,
      (session.process handler line).outcome = .handled .createTable (.ok (.tableCreated name clause)) →
      let undone := (session.process handler line).session.process handler (dropLine name)
      undone.outcome = .handled .dropTable (.ok (.tableDropped name)) ∧
      undone.session.catalog.registry = session.catalog.registry ∧
      (∀ other, undone.session.catalog.store.get? other = session.catalog.store.get? other) ∧
      undone.session.handlerState = session.handlerState) ∧
    (∀ name ∈ session.catalog.registry.names,
      (session.process handler (dropLine name)).outcome = .handled .dropTable (.ok (.tableDropped name))) ∧
    ∀ (session : Session Unit) line kind name clause,
      (session.process .deferring line).outcome = .handled kind (.ok (.tableCreated name clause)) →
      kind = .createTable := by
  intro session
  have hc : session.catalog.Consistent := consistent_reachable handler handlerState lines
  refine ⟨?_, ?_, fun _ _ _ _ _ h => kind_of_tableCreated h⟩
  · intro line name clause hcreated undone
    obtain ⟨table, -, rfl, hw, hfresh, hsession⟩ := exists_table_of_tableCreated hcreated
    obtain ⟨hnames, hstored⟩ := hc.drop_add hfresh
    have hundone : undone = _ := process_dropLine handler hw.name.word (by simp [hsession, Catalog.add])
    rw [hundone, hsession]
    exact ⟨rfl, congrArg Catalog.Registry.mk hnames, hstored, rfl⟩
  · intro name hname
    obtain ⟨table, -, rfl, hw⟩ := hc.exists_table hname
    rw [process_dropLine handler hw.name.word hname]

theorem drop_undoes_creation_of_keyword :
    let before := (start ()).processAll .deferring ["CREATE TABLE t((a,number,1,0))"]
    let after := (before.process .deferring "CREATE TABLE Table((b,string,2,x))").session
    after.catalog.registry.names = ["t", "Table"] ∧
      (after.process .deferring (dropLine "Table")).session.catalog.registry = before.catalog.registry ∧
      (before.process .deferring (dropLine "t")).outcome = .handled .dropTable (.ok (.tableDropped "t")) := by
  intro before after
  have hcreated : (before.process .deferring "CREATE TABLE Table((b,string,2,x))").outcome =
      .handled .createTable (.ok (.tableCreated "Table" false)) := rfl
  have hall := drop_undoes_creation .deferring () ["CREATE TABLE t((a,number,1,0))"]
  have hnames : before.catalog.registry.names = ["t"] := rfl
  refine ⟨rfl, (hall.1 _ "Table" false hcreated).2.1, hall.2.1 "t" ?_⟩
  change "t" ∈ before.catalog.registry.names
  simp [hnames]

end Session

end SchemaShell
