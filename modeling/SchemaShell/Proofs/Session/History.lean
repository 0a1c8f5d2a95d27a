import Mathlib.Data.List.Chain
import Mathlib.Data.List.Induction
import SchemaShell.Proofs.Session.Transition

/-!
# The history of the tables

The answers to a number of lines tell when each table was made and when it was dropped. The catalog
holds what is left of this history: the tables whose last event is a creation.
-/

namespace SchemaShell

open Command Schema

variable {σ : Type}

/-- The making or the end of a table. A creation keeps the line that asked for it. -/
inductive TableEvent where
  | created (name line : String)
  | dropped (name : String)
  deriving DecidableEq, Repr

namespace TableEvent

def name : TableEvent → String
  | created name _ => name
  | dropped name => name

def isCreation : TableEvent → Bool
  | created .. => true
  | dropped _ => false

@[simp] theorem name_created (name line : String) : (created name line).name = name := rfl

@[simp] theorem name_dropped (name : String) : (dropped name).name = name := rfl

@[simp] theorem isCreation_created (name line : String) : (created name line).isCreation = true := rfl

@[simp] theorem isCreation_dropped (name : String) : (dropped name).isCreation = false := rfl

/-- What the answer to a line says about a table. A handler may report what it likes, so only answers
to CREATE TABLE and DROP TABLE count. -/
def ofAnswer? (line : String) : Outcome → Option TableEvent
  | .handled .createTable (.ok (.tableCreated name _)) => some (.created name line)
  | .handled .dropTable (.ok (.tableDropped name)) => some (.dropped name)
  | _ => none

theorem ofAnswer?_of_spares {outcome : Outcome} (h : outcome.Spares) (line : String) :
    ofAnswer? line outcome = none := by
  cases h with
  | unrecognized => rfl
  | malformed error => rfl
  | refused kind refusal => cases kind <;> rfl
  | tableExists kind name => cases kind <;> rfl
  | handedOn result notCreate notDrop =>
    unfold ofAnswer?
    split
    · next heq =>
      cases heq
      exact absurd rfl notCreate
    · next heq =>
      cases heq
      exact absurd rfl notDrop
    · rfl

/-- The events that a number of lines and their answers tell of. -/
def history (lines : List String) (outcomes : List Outcome) : List TableEvent :=
  (lines.zip outcomes).filterMap fun answer => ofAnswer? answer.1 answer.2

theorem history_cons (line : String) (lines : List String) (outcome : Outcome) (outcomes : List Outcome) :
    history (line :: lines) (outcome :: outcomes) =
      (ofAnswer? line outcome).toList ++ history lines outcomes := by
  rw [history, List.zip_cons_cons, List.filterMap_cons]
  cases ofAnswer? line outcome <;> rfl

variable {events : List TableEvent} {event : TableEvent} {table : String}

/-! ## The events of one table -/

def about (table : String) (events : List TableEvent) : List TableEvent :=
  events.filter fun event => event.name = table

/-- Creations and drops take turns, and a creation comes first. -/
def InTurn (events : List TableEvent) : Prop :=
  (∀ first ∈ events.head?, first.isCreation = true) ∧
    events.IsChain fun event next => event.isCreation ≠ next.isCreation

/-- Whether the last event is a creation. -/
def EndsInCreation (events : List TableEvent) : Prop :=
  ∃ last ∈ events.getLast?, last.isCreation = true

theorem about_concat_self (events : List TableEvent) (event : TableEvent) :
    about event.name (events ++ [event]) = about event.name events ++ [event] := by
  simp [about]

theorem about_concat_of_ne (events : List TableEvent) (h : event.name ≠ table) :
    about table (events ++ [event]) = about table events := by
  simp [about, h]

theorem InTurn.concat (h : InTurn events) (hnext : event.isCreation = true ↔ ¬ EndsInCreation events) :
    InTurn (events ++ [event]) := by
  obtain ⟨hfirst, hchain⟩ := h
  constructor
  · cases events with
    | nil =>
      have hcreates : event.isCreation = true := hnext.mpr (by simp [EndsInCreation])
      simpa using hcreates
    | cons first rest => simpa using hfirst
  · rw [List.isChain_append]
    refine ⟨hchain, List.isChain_singleton event, ?_⟩
    intro last hlast next hmem hsame
    obtain rfl : event = next := by simpa using hmem
    have hends : EndsInCreation events ↔ last.isCreation = true := by
      rw [Option.mem_def] at hlast
      simp [EndsInCreation, hlast]
    rw [hends, hsame] at hnext
    exact iff_not_self hnext

/-! ## What is left -/

/-- The creations after which nothing happened to their tables, in order. -/
def standing : List TableEvent → List TableEvent
  | [] => []
  | event :: later =>
    if event.isCreation = true ∧ ∀ other ∈ later, other.name ≠ event.name then
      event :: standing later
    else standing later

theorem standing_concat (events : List TableEvent) (event : TableEvent) :
    standing (events ++ [event]) =
      (standing events).filter (fun other => other.name ≠ event.name) ++
        if event.isCreation = true then [event] else [] := by
  induction events with
  | nil => simp [standing]
  | cons first later ih =>
    rw [List.cons_append, standing, standing, ih]
    have hlater : (∀ other ∈ later ++ [event], other.name ≠ first.name) ↔
        (∀ other ∈ later, other.name ≠ first.name) ∧ first.name ≠ event.name := by
      simp [or_imp, forall_and, ne_comm]
    by_cases hstands : first.isCreation = true ∧ ∀ other ∈ later, other.name ≠ first.name
    · by_cases hname : first.name = event.name
      · rw [if_neg (by rw [hlater]; exact fun h => h.2.2 hname), if_pos hstands,
          List.filter_cons_of_neg (by simp [hname])]
      · rw [if_pos (by rw [hlater]; exact ⟨hstands.1, hstands.2, hname⟩), if_pos hstands,
          List.filter_cons_of_pos (by simp [hname]), List.cons_append]
    · rw [if_neg (by rw [hlater]; exact fun h => hstands ⟨h.1, h.2.1⟩), if_neg hstands]

example : standing [.created "t" "1", .created "u" "2", .dropped "t", .created "t" "3"] =
    [.created "u" "2", .created "t" "3"] := by decide

theorem map_name_standing_concat (events : List TableEvent) (event : TableEvent) :
    (standing (events ++ [event])).map name =
      ((standing events).map name).filter (fun other => other ≠ event.name) ++
        if event.isCreation = true then [event.name] else [] := by
  rw [standing_concat, List.map_append, List.filter_map]
  cases event.isCreation <;> rfl

theorem mem_map_name_standing_iff :
    table ∈ (standing events).map name ↔ EndsInCreation (about table events) := by
  induction events using List.reverseRecOn with
  | nil => simp [standing, about, EndsInCreation]
  | append_singleton events event ih =>
    rw [map_name_standing_concat, List.mem_append, List.mem_filter]
    by_cases hname : event.name = table
    · subst hname
      rw [about_concat_self]
      cases hcreates : event.isCreation <;> simp [EndsInCreation, hcreates]
    · rw [about_concat_of_ne events hname, ← ih]
      cases event.isCreation <;> simp [Ne.symm hname, eq_comm]

end TableEvent

namespace Session

open TableEvent Written

variable {session : Session σ} {line : String} {events : List TableEvent}
  {before after : Catalog} {outcome : Outcome}

/-- The line asks for a table of this name, and its columns build this table. -/
def Builds (line name : String) (table : Table) : Prop :=
  ∃ command block, Reads line .createTable command ∧ command.get? .table = some name ∧
    command.get? .columns = some block ∧ build name block = .ok table

theorem Reads.builds {command : Command} {table : Table} (h : Reads line .createTable command)
    (hbuild : build command.tableName ((command.get? .columns).getD "") = .ok table) :
    Builds line command.tableName table := by
  obtain ⟨f, rest, rfl⟩ := h.exists_form
  refine ⟨f.command rest, String.ofList f.body.block, h, ?_, get?_columns f rest, ?_⟩
  · rw [tableName_written, get?_table]
  · rwa [get?_columns, Option.getD_some] at hbuild

theorem exists_table_of_tableCreated {handler : Handler σ} {name : String} {clause : Bool}
    (h : (session.process handler line).outcome =
      .handled .createTable (.ok (.tableCreated name clause))) :
    ∃ table, Builds line name table ∧ table.name = name ∧ table.WellFormed ∧
      name ∉ session.catalog.registry.names ∧
      (session.process handler line).session = { session with catalog := session.catalog.add table } := by
  have heffect := process_effect handler session line
  generalize session.process handler line = step at heffect h
  cases heffect with
  | created reads fresh builds =>
    obtain ⟨rfl, -⟩ : _ ∧ _ := by simpa using h
    obtain ⟨hname, hw⟩ := reads.wellFormed_of_build builds
    exact ⟨_, reads.builds builds, hname, hw, fresh, rfl⟩
  | handedOn reads notCreate notDrop =>
    obtain ⟨rfl, -⟩ : _ ∧ _ := by simpa using h
    exact absurd rfl notCreate
  | _ => simp [refused] at h

theorem kind_of_tableCreated {session : Session Unit} {kind : Kind} {name : String} {clause : Bool}
    (h : (session.process .deferring line).outcome = .handled kind (.ok (.tableCreated name clause))) :
    kind = .createTable := by
  have heffect := process_effect .deferring session line
  generalize session.process .deferring line = step at heffect h
  cases heffect with
  | created reads fresh builds =>
    obtain ⟨rfl, -⟩ : _ ∧ _ := by simpa using h
    rfl
  | handedOn reads notCreate notDrop => simp [Handler.deferring] at h
  | _ => simp [refused] at h

/-- A catalog that holds what is left of a history. -/
structure Follows (catalog : Catalog) (events : List TableEvent) : Prop where
  inTurn : ∀ name, InTurn (about name events)
  names : catalog.registry.names = (standing events).map TableEvent.name
  stored : ∀ event ∈ standing events, ∃ line table, event = .created event.name line ∧
    catalog.store.get? event.name = some table ∧ Builds line event.name table

theorem follows_empty : Follows .empty [] where
  inTurn _ := ⟨by simp [about], by simp [about]⟩
  names := rfl
  stored _ h := by cases h

theorem Follows.mem_names_iff (h : Follows before events) {name : String} :
    name ∈ before.registry.names ↔ EndsInCreation (about name events) := by
  rw [h.names, mem_map_name_standing_iff]

theorem Follows.concat (h : Follows before events) (event : TableEvent)
    (hnext : event.isCreation = true ↔ event.name ∉ before.registry.names)
    (hnames : after.registry.names = before.registry.names.filter (fun other => other ≠ event.name) ++
      if event.isCreation = true then [event.name] else [])
    (hkept : ∀ other, other ≠ event.name → after.store.get? other = before.store.get? other)
    (hnew : event.isCreation = true → ∃ line table, event = .created event.name line ∧
      after.store.get? event.name = some table ∧ Builds line event.name table) :
    Follows after (events ++ [event]) where
  inTurn name := by
    by_cases hname : event.name = name
    · subst hname
      rw [about_concat_self]
      exact (h.inTurn event.name).concat (hnext.trans (not_congr h.mem_names_iff))
    · rw [about_concat_of_ne events hname]
      exact h.inTurn name
  names := by rw [hnames, map_name_standing_concat, h.names]
  stored old hold := by
    rw [standing_concat, List.mem_append, List.mem_filter] at hold
    rcases hold with ⟨hold, hname⟩ | hold
    · rw [hkept _ (by simpa using hname)]
      exact h.stored old hold
    · split at hold
      · next hcreates =>
        obtain rfl := List.mem_singleton.mp hold
        exact hnew hcreates
      · cases hold

theorem Follows.step (h : Follows before events) (hb : before.Consistent)
    (ht : Transition line before outcome after) :
    Follows after (events ++ (ofAnswer? line outcome).toList) := by
  cases ht with
  | spared spares =>
    rw [ofAnswer?_of_spares spares, Option.toList_none, List.append_nil]
    exact h
  | @created command table reads fresh builds =>
    obtain ⟨-, -, hnames, -, hkept⟩ := (Transition.created reads fresh builds).of_tableCreated hb
    obtain ⟨hname, -⟩ := reads.wellFormed_of_build builds
    refine h.concat (.created command.tableName line) ?_ ?_ hkept ?_
    · simp [fresh]
    · rw [hnames, name_created, List.filter_eq_self.mpr]
      · rfl
      · intro other hother
        have hne : other ≠ command.tableName := fun heq => fresh (heq ▸ hother)
        simpa using hne
    · intro _
      refine ⟨line, table, rfl, ?_, reads.builds builds⟩
      rw [name_created, Catalog.add, Catalog.Store.get?_put, if_pos hname.symm]
  | @dropped command registry reads drops =>
    obtain ⟨hmem, hnames, -, hkept⟩ := (Transition.dropped reads drops).of_tableDropped hb
    refine h.concat (.dropped command.tableName) ?_ ?_ hkept ?_
    · simp [hmem]
    · rw [hnames, isCreation_dropped, if_neg Bool.false_ne_true, List.append_nil, name_dropped]
    · intro hcreates
      cases hcreates

theorem Follows.run (h : Follows session.catalog events) (hb : session.catalog.Consistent)
    (handler : Handler σ) (lines : List String) :
    Follows (session.processAll handler lines).catalog
      (events ++ history lines (session.outcomes handler lines)) := by
  induction lines generalizing session events with
  | nil => simpa [history, processAll] using h
  | cons line lines ih =>
    rw [processAll_cons, outcomes, history_cons, ← List.append_assoc]
    exact ih (h.step hb (process_transition handler session line)) (consistent_process hb handler line)

/-- The answers tell the whole state of the tables. A table is made and dropped by turns, the
registry names the tables that were made last and not dropped since, in the order of their last
creations, and what is stored for each of them was built from the line of this creation. -/
theorem catalog_follows_answers (handler : Handler σ) (handlerState : σ) (lines : List String) :
    let events := history lines ((start handlerState).outcomes handler lines)
    let catalog := ((start handlerState).processAll handler lines).catalog
    (∀ name, InTurn (about name events)) ∧
    (∀ name, name ∈ catalog.registry.names ↔ EndsInCreation (about name events)) ∧
    catalog.registry.names = (standing events).map TableEvent.name ∧
    ∀ event ∈ standing events, ∃ line table, event = .created event.name line ∧
      catalog.store.get? event.name = some table ∧ Builds line event.name table := by
  intro events catalog
  have h : Follows catalog ([] ++ events) :=
    follows_empty.run Catalog.consistent_empty handler lines
  rw [List.nil_append] at h
  exact ⟨h.inTurn, fun _ => h.mem_names_iff, h.names, h.stored⟩

end Session

end SchemaShell
