import SchemaShell.Proofs.Session.Reachable

/-!
# The life of one table

What is stored under a name is decided by the CREATE TABLE and DROP TABLE commands about this name
alone, one after the other. Lines about other tables, and all lines that fail, do not matter to it.
-/

namespace SchemaShell

open Command Schema

variable {σ τ : Type} {command : Command} {line name : String}

/-- What a command makes of what is stored under the name of its table. -/
def Command.settle (command : Command) (stored : Option Table) : Option Table :=
  match command.kind with
  | .createTable =>
    stored <|> (build command.tableName ((command.get? .columns).getD "")).toOption
  | .dropTable => if command.remainder.toList.all Text.isWhiteSpace then none else stored
  | _ => stored

namespace Session

variable {session : Session σ}

/-- The command by which a line makes or drops the table of a name. -/
def about? (name line : String) : Option Command :=
  (command? line).filter fun command =>
    (command.kind = .createTable ∨ command.kind = .dropTable) ∧ command.tableName = name

theorem about?_eq_some_iff :
    about? name line = some command ↔
      (Reads line .createTable command ∨ Reads line .dropTable command) ∧ command.tableName = name := by
  rw [about?, Option.filter_eq_some_iff, command?_eq_some_iff, decide_eq_true_iff]
  constructor
  · rintro ⟨hreads, hkind | hkind, hname⟩
    · exact ⟨.inl (hkind ▸ hreads), hname⟩
    · exact ⟨.inr (hkind ▸ hreads), hname⟩
  · rintro ⟨hreads | hreads, hname⟩
    · have hkind := hreads.kind_eq
      exact ⟨hkind.symm ▸ hreads, .inl hkind, hname⟩
    · have hkind := hreads.kind_eq
      exact ⟨hkind.symm ▸ hreads, .inr hkind, hname⟩

/-- What a line makes of what is stored under a name. -/
def settleLine (name line : String) (stored : Option Table) : Option Table :=
  (about? name line).elim stored fun command => command.settle stored

/-! ## What a line makes of one table -/

theorem settle_createTable (hkind : command.kind = .createTable) (stored : Option Table) :
    command.settle stored =
      (stored <|> (build command.tableName ((command.get? .columns).getD "")).toOption) := by
  rw [Command.settle, hkind]

theorem settle_dropTable (hkind : command.kind = .dropTable) (stored : Option Table) :
    command.settle stored =
      if command.remainder.toList.all Text.isWhiteSpace then none else stored := by
  rw [Command.settle, hkind]

theorem settleLine_of_not_read (h : command? line = none) (stored : Option Table) :
    settleLine name line stored = stored := by
  rw [settleLine, about?, h]
  rfl

theorem settleLine_of_reads {kind : Kind} (h : Reads line kind command) (stored : Option Table) :
    settleLine name line stored =
      if command.tableName = name then command.settle stored else stored := by
  rw [settleLine, about?, h.command?_eq, Option.filter_some]
  by_cases hname : command.tableName = name
  · cases hkind : command.kind <;> simp [hkind, hname, Command.settle]
  · simp [hname]

theorem settleLine_of_other {kind : Kind} (h : Reads line kind command) (hc : kind ≠ .createTable)
    (hd : kind ≠ .dropTable) (stored : Option Table) : settleLine name line stored = stored := by
  have hnone : about? name line = none := by
    rw [about?, h.command?_eq, Option.filter_some, h.kind_eq]
    simp [hc, hd]
  rw [settleLine, hnone]
  rfl

theorem settleLine_of_known (h : session.catalog.Consistent) (hreads : Reads line .createTable command)
    (known : command.tableName ∈ session.catalog.registry.names) :
    settleLine name line (session.catalog.store.get? name) = session.catalog.store.get? name := by
  rw [settleLine_of_reads hreads]
  split
  · next hname =>
    obtain ⟨table, htable, -⟩ := h.exists_table (hname ▸ known)
    rw [settle_createTable hreads.kind_eq, htable]
    rfl
  · rfl

/-- What is stored under a name after a line depends on what was stored under it before, and on nothing
else in the catalog. -/
theorem get?_process (h : session.catalog.Consistent) (handler : Handler σ) (line name : String) :
    (session.process handler line).session.catalog.store.get? name =
      settleLine name line (session.catalog.store.get? name) := by
  have heffect := process_effect handler session line
  generalize session.process handler line = step at heffect ⊢
  cases heffect with
  | unrecognized opens =>
    rw [settleLine_of_not_read]
    rw [command?, opens, Option.bind_none]
  | malformed opens fails =>
    rw [settleLine_of_not_read]
    rw [command?, opens, Option.bind_some, fails]
    rfl
  | tableExists reads known clause => exact (settleLine_of_known h reads known).symm
  | duplicateTable reads known clause => exact (settleLine_of_known h reads known).symm
  | badColumns reads fresh fails =>
    rw [settleLine_of_reads reads]
    split
    · next hname =>
      have hstored := h.get?_eq_none_iff.mpr (hname ▸ fresh)
      rw [settle_createTable reads.kind_eq, fails, hstored]
      exact hstored
    · rfl
  | created reads fresh builds =>
    obtain ⟨hnamed, -⟩ := reads.wellFormed_of_build builds
    rw [settleLine_of_reads reads, Catalog.add, Catalog.Store.get?_put, hnamed]
    split
    · next hname =>
      have hstored := h.get?_eq_none_iff.mpr (hname ▸ fresh)
      rw [if_pos hname.symm, settle_createTable reads.kind_eq, builds, hstored]
      rfl
    · next hname => rw [if_neg (Ne.symm hname)]
  | listNotAllowed reads more =>
    rw [settleLine_of_reads reads, settle_dropTable reads.kind_eq, more, if_neg Bool.false_ne_true,
      ite_self]
    rfl
  | notDropped reads alone fails =>
    -- The registry was empty or did not know the name: there is nothing to drop either way.
    have hmem := Catalog.Registry.not_mem_of_unregister fails
    rw [settleLine_of_reads reads, settle_dropTable reads.kind_eq, if_pos alone]
    split
    · next hname => exact h.get?_eq_none_iff.mpr (hname ▸ hmem)
    · rfl
  | dropped reads alone drops =>
    rw [settleLine_of_reads reads, settle_dropTable reads.kind_eq, if_pos alone,
      Catalog.Store.get?_evict]
    split
    · next hname => rw [if_pos hname.symm]
    · next hname => rw [if_neg (Ne.symm hname)]
  | handedOn reads notCreate notDrop =>
    rw [settleLine_of_other reads notCreate notDrop, catalog_handOn]

/-! ## All lines -/

theorem get?_processAll (h : session.catalog.Consistent) (handler : Handler σ) (lines : List String)
    (name : String) :
    (session.processAll handler lines).catalog.store.get? name =
      (lines.filterMap (about? name)).foldl (fun stored command => command.settle stored)
        (session.catalog.store.get? name) := by
  induction lines generalizing session with
  | nil => rfl
  | cons line lines ih =>
    rw [processAll_cons, ih (consistent_process h handler line), get?_process h, settleLine,
      List.filterMap_cons]
    cases about? name line <;> rfl

theorem get?_of_start (handler : Handler σ) (state : σ) (lines : List String) (name : String) :
    ((start state).processAll handler lines).catalog.store.get? name =
      (lines.filterMap (about? name)).foldl (fun stored command => command.settle stored) none := by
  have hstart : (start state).catalog.Consistent := Catalog.consistent_empty
  rw [get?_processAll hstart]
  rfl

/-- A line that makes or drops the table of a name, or tries to. -/
def concerns (name line : String) : Bool :=
  (about? name line).isSome

theorem concerns_iff :
    concerns name line = true ↔ ∃ command,
      (Reads line .createTable command ∨ Reads line .dropTable command) ∧ command.tableName = name := by
  rw [concerns, Option.isSome_iff_exists]
  exact exists_congr fun _ => about?_eq_some_iff

theorem filterMap_about?_filter (name : String) (lines : List String) :
    (lines.filter (concerns name)).filterMap (about? name) = lines.filterMap (about? name) := by
  rw [List.filterMap_filter]
  apply List.filterMap_congr
  intro line _
  cases h : about? name line <;> simp [concerns, h]

/-- Tables do not interfere. Whether a name is registered, and what is stored under it, stays the same
when all lines but the CREATE TABLE and DROP TABLE commands about it are left out. -/
theorem other_lines_do_not_matter (handler : Handler σ) (state : σ) (other : Handler τ)
    (otherState : τ) (lines : List String) (name : String) :
    let full := ((start state).processAll handler lines).catalog
    let own := ((start otherState).processAll other (lines.filter (concerns name))).catalog
    (∀ line, concerns name line = true ↔ ∃ command,
      (Reads line .createTable command ∨ Reads line .dropTable command) ∧ command.tableName = name) ∧
    full.registry.contains name = own.registry.contains name ∧
    full.store.get? name = own.store.get? name := by
  intro full own
  have hfull : full.Consistent := consistent_reachable handler state lines
  have hown : own.Consistent := consistent_reachable other otherState (lines.filter (concerns name))
  have hstored : full.store.get? name = own.store.get? name := by
    have halone := get?_of_start other otherState (lines.filter (concerns name)) name
    rw [filterMap_about?_filter] at halone
    exact (get?_of_start handler state lines name).trans halone.symm
  refine ⟨fun _ => concerns_iff, ?_, hstored⟩
  rw [Bool.eq_iff_iff, Catalog.Registry.contains_iff, Catalog.Registry.contains_iff,
    ← hfull.stored_iff, ← hown.stored_iff, hstored]

end Session

end SchemaShell
