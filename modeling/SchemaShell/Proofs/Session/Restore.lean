import SchemaShell.Proofs.Schema.Creation
import SchemaShell.Proofs.Session.Reachable

/-!
# Dump and restore

The lines that create the tables of a catalog, in the order of its registry, build the catalog again
in a fresh session.
-/

namespace SchemaShell

open Command Written Schema

variable {σ : Type} {session : Session σ}

def Catalog.dump (catalog : Catalog) : List String :=
  catalog.tables.map Table.creation

namespace Session

/-! ## One line -/

theorem reads_creation {table : Table} (h : table.WellFormed) :
    ∃ command, Reads table.creation .createTable command ∧ command.tableName = table.name ∧
      (command.get? .ifNotExists).isSome = false ∧
      build command.tableName ((command.get? .columns).getD "") = .ok table := by
  obtain ⟨f, htext, hname, hclause, hbuild⟩ := exists_form_of_table h
  have hnormal : normalize table.creation = f.text ++ [] := by
    rw [normalize_creation, htext, List.append_nil]
  have hfits : validate .createTable table.creation = .ok (f.command []) := validate_of_createTable hnormal
  have htable : (f.command []).tableName = table.name := by
    rw [tableName_written, hname, String.ofList_toList]
  refine ⟨f.command [], ⟨classify_of_fits hfits, hfits⟩, htable, ?_, ?_⟩
  · rw [get?_ifNotExists, hclause, Option.isSome_none]
  · rw [htable, get?_columns, Option.getD_some]
    exact hbuild table.name

theorem process_creation (handler : Handler σ) {table : Table} (h : table.WellFormed)
    (fresh : table.name ∉ session.catalog.registry.names) :
    (session.process handler table.creation).outcome =
        .handled .createTable (.ok (.tableCreated table.name false)) ∧
      (session.process handler table.creation).session =
        { session with catalog := session.catalog.add table } := by
  obtain ⟨command, hreads, hname, hclause, hbuild⟩ := reads_creation h
  rw [← hname] at fresh
  rw [process_created hreads fresh hbuild, hname, hclause]
  exact ⟨rfl, rfl⟩

/-! ## All lines -/

theorem process_creations (handler : Handler σ) {tables : List Table}
    (hw : ∀ table ∈ tables, table.WellFormed)
    (fresh : (session.catalog.registry.names ++ tables.map Table.name).Nodup) :
    session.outcomes handler (tables.map Table.creation) =
        tables.map (fun table => .handled .createTable (.ok (.tableCreated table.name false))) ∧
      (session.processAll handler (tables.map Table.creation)).catalog =
        session.catalog.addAll tables := by
  induction tables generalizing session with
  | nil => exact ⟨rfl, rfl⟩
  | cons table tables ih =>
    have hnew : table.name ∉ session.catalog.registry.names := fun hmem =>
      (List.nodup_append.mp fresh).2.2 _ hmem _ (by simp) rfl
    obtain ⟨houtcome, hsession⟩ := process_creation handler (hw table (by simp)) hnew
    -- The name that was new is a known name for the lines that follow.
    have hrest := @ih { session with catalog := session.catalog.add table }
      (fun t ht => hw t (by simp [ht])) (by simpa [Catalog.add] using fresh)
    rw [List.map_cons, processAll_cons, outcomes, houtcome, hsession, hrest.1, hrest.2]
    exact ⟨rfl, rfl⟩

/-- The dump of any reachable session, taken line by line by a fresh session, is answered with the
creation of each table and brings back the registry and all that is stored. -/
theorem restore_dump {τ : Type} (handler : Handler σ) (handlerState : σ) (lines : List String)
    (other : Handler τ) (otherState : τ) :
    let saved := ((start handlerState).processAll handler lines).catalog
    let restored := ((start otherState).processAll other saved.dump).catalog
    saved.tables.map Table.name = saved.registry.names ∧
    (start otherState).outcomes other saved.dump =
      saved.registry.names.map (fun name => .handled .createTable (.ok (.tableCreated name false))) ∧
    restored.registry = saved.registry ∧
    ∀ name, restored.store.get? name = saved.store.get? name := by
  intro saved restored
  have h : saved.Consistent := consistent_reachable handler handlerState lines
  have hnames := h.map_name_tables
  have hw : ∀ table ∈ saved.tables, table.WellFormed := fun table ht =>
    h.wellFormed _ _ (h.get?_of_mem_tables ht)
  have hfresh : ((start otherState).catalog.registry.names ++ saved.tables.map Table.name).Nodup := by
    simpa [start, Catalog.empty, Catalog.Registry.empty, hnames] using h.distinct
  obtain ⟨houtcomes, hcatalog⟩ := process_creations other hw hfresh
  have hrestored : restored = Catalog.empty.addAll saved.tables := hcatalog
  rw [hrestored]
  refine ⟨hnames, ?_, h.registry_addAll_tables, h.get?_addAll_tables⟩
  rw [Catalog.dump, houtcomes, ← hnames, List.map_map]
  rfl

end Session

end SchemaShell
