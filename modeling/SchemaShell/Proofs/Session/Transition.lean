import SchemaShell.Proofs.Session.Reachable

/-!
# What a line changes

A line makes a table, drops one or leaves the catalog alone, and its outcome tells which. Whatever
goes wrong goes wrong before anything is changed.
-/

namespace SchemaShell

open Command Schema

variable {σ : Type} {line : String}

/-- The outcomes of the lines that leave the catalog alone. -/
inductive Outcome.Spares : Outcome → Prop where
  | unrecognized : Spares .unrecognized
  | malformed (error : FormatError) : Spares (.malformed error)
  | refused (kind : Kind) (refusal : Refusal) : Spares (.handled kind (.error refusal))
  | tableExists (kind : Kind) (name : String) : Spares (.handled kind (.ok (.tableExists name)))
  | handedOn {kind : Kind} (result : Except Refusal Report) (notCreate : kind ≠ .createTable)
      (notDrop : kind ≠ .dropTable) : Spares (.handled kind result)

namespace Session

/-- The ways from one catalog to the next, each with the outcome that tells it. -/
inductive Transition (line : String) (before : Catalog) : Outcome → Catalog → Prop where
  | spared {outcome : Outcome} (spares : outcome.Spares) : Transition line before outcome before
  | created {command : Command} {table : Table} (reads : Reads line .createTable command)
      (fresh : command.tableName ∉ before.registry.names)
      (builds : build command.tableName ((command.get? .columns).getD "") = .ok table) :
    Transition line before
      (.handled .createTable
        (.ok (.tableCreated command.tableName (command.get? .ifNotExists).isSome)))
      (before.add table)
  | dropped {command : Command} {registry : Catalog.Registry} (reads : Reads line .dropTable command)
      (drops : before.registry.unregister command.tableName = .ok registry) :
    Transition line before (.handled .dropTable (.ok (.tableDropped command.tableName)))
      ⟨registry, before.store.evict command.tableName⟩

theorem process_transition (handler : Handler σ) (session : Session σ) (line : String) :
    Transition line session.catalog (session.process handler line).outcome
      (session.process handler line).session.catalog := by
  have heffect := process_effect handler session line
  generalize session.process handler line = step at heffect ⊢
  cases heffect with
  | unrecognized opens => exact .spared .unrecognized
  | malformed opens fails => exact .spared (.malformed _)
  | tableExists reads known clause => exact .spared (.tableExists _ _)
  | duplicateTable reads known clause => exact .spared (.refused _ _)
  | badColumns reads fresh fails => exact .spared (.refused _ _)
  | created reads fresh builds => exact .created reads fresh builds
  | listNotAllowed reads more => exact .spared (.refused _ _)
  | notDropped reads alone fails => exact .spared (.refused _ _)
  | dropped reads alone drops => exact .dropped reads drops
  | handedOn reads notCreate notDrop => exact .spared (.handedOn _ notCreate notDrop)

namespace Transition

variable {before after : Catalog} {outcome : Outcome}

theorem eq_of_spares (h : Transition line before outcome after) (hs : outcome.Spares) :
    after = before := by
  cases h with
  | spared spares => rfl
  | created reads fresh builds =>
    cases hs with
    | handedOn result notCreate notDrop => exact absurd rfl notCreate
  | dropped reads drops =>
    cases hs with
    | handedOn result notCreate notDrop => exact absurd rfl notDrop

theorem of_tableCreated {name : String} {clause : Bool} (hb : before.Consistent)
    (h : Transition line before (.handled .createTable (.ok (.tableCreated name clause))) after) :
    name ∉ before.registry.names ∧ before.store.get? name = none ∧
      after.registry.names = before.registry.names ++ [name] ∧
      (∃ table, after.store.get? name = some table) ∧
      ∀ other, other ≠ name → after.store.get? other = before.store.get? other := by
  cases h with
  | spared spares =>
    cases spares with
    | handedOn result notCreate notDrop => exact absurd rfl notCreate
  | created reads fresh builds =>
    obtain ⟨hname, -⟩ := reads.wellFormed_of_build builds
    refine ⟨fresh, hb.get?_eq_none_iff.mpr fresh, ?_, ?_, ?_⟩
    · rw [Catalog.add, Catalog.Registry.names_register, hname]
    · exact ⟨_, by rw [Catalog.add, Catalog.Store.get?_put, if_pos hname.symm]⟩
    · intro other hother
      rw [Catalog.add, Catalog.Store.get?_put, hname, if_neg hother]

theorem of_tableDropped {name : String} (hb : before.Consistent)
    (h : Transition line before (.handled .dropTable (.ok (.tableDropped name))) after) :
    name ∈ before.registry.names ∧
      after.registry.names = before.registry.names.filter (fun other => other ≠ name) ∧
      after.store.get? name = none ∧
      ∀ other, other ≠ name → after.store.get? other = before.store.get? other := by
  cases h with
  | spared spares =>
    cases spares with
    | handedOn result notCreate notDrop => exact absurd rfl notDrop
  | dropped reads drops =>
    obtain ⟨hmem, hnames⟩ := hb.names_unregister drops
    refine ⟨hmem, hnames, ?_, ?_⟩
    · rw [Catalog.Store.get?_evict, if_pos rfl]
    · intro other hother
      rw [Catalog.Store.get?_evict, if_neg hother]

theorem outcome_cases (h : Transition line before outcome after) :
    outcome.Spares ∨
      (∃ name clause, outcome = .handled .createTable (.ok (.tableCreated name clause))) ∨
      ∃ name, outcome = .handled .dropTable (.ok (.tableDropped name)) := by
  cases h with
  | spared spares => exact .inl spares
  | created reads fresh builds => exact .inr (.inl ⟨_, _, rfl⟩)
  | dropped reads drops => exact .inr (.inr ⟨_, rfl⟩)

end Transition

/-- A line that is not recognised, malformed, refused, about a table that exists or for the handler
leaves the catalog as it was. Every other line makes one table or drops one, in the registry and in
the store together, and touches nothing else. -/
theorem line_is_all_or_nothing {τ : Type} (handler : Handler σ) (handlerState : σ)
    (lines : List String) (other : Handler τ) (otherState : τ) (line : String) :
    let before := ((start handlerState).processAll handler lines).catalog
    let step := Session.process other ⟨before, otherState⟩ line
    let after := step.session.catalog
    (step.outcome.Spares ∨
      (∃ name clause, step.outcome = .handled .createTable (.ok (.tableCreated name clause))) ∨
      ∃ name, step.outcome = .handled .dropTable (.ok (.tableDropped name))) ∧
    (step.outcome.Spares → after = before) ∧
    (∀ name clause, step.outcome = .handled .createTable (.ok (.tableCreated name clause)) →
      name ∉ before.registry.names ∧ before.store.get? name = none ∧
      after.registry.names = before.registry.names ++ [name] ∧
      (∃ table, after.store.get? name = some table) ∧
      ∀ second, second ≠ name → after.store.get? second = before.store.get? second) ∧
    ∀ name, step.outcome = .handled .dropTable (.ok (.tableDropped name)) →
      name ∈ before.registry.names ∧
      after.registry.names = before.registry.names.filter (fun second => second ≠ name) ∧
      after.store.get? name = none ∧
      ∀ second, second ≠ name → after.store.get? second = before.store.get? second := by
  intro before step after
  have hb : before.Consistent := consistent_reachable handler handlerState lines
  have hstep : Session.process other ⟨before, otherState⟩ line = step := rfl
  have hafter : step.session.catalog = after := rfl
  have h : Transition line before _ _ := process_transition other ⟨before, otherState⟩ line
  rw [hstep, hafter] at h
  refine ⟨h.outcome_cases, h.eq_of_spares, ?_, ?_⟩
  · intro name clause houtcome
    rw [houtcome] at h
    exact h.of_tableCreated hb
  · intro name houtcome
    rw [houtcome] at h
    exact h.of_tableDropped hb

theorem line_is_all_or_nothing_of_three :
    let before := ((start ()).processAll .deferring ["CREATE TABLE t((a,number,1,0))"]).catalog
    let after (line : String) := (Session.process .deferring ⟨before, ()⟩ line).session.catalog
    after "CREATE TABLE u((a,string,1,0),(b,word,1,0))" = before ∧
      (after "CREATE TABLE u((a,string,1,0))").registry.names = before.registry.names ++ ["u"] ∧
      (after "DROP TABLE t").store.get? "t" = none := by
  intro before after
  have hall := line_is_all_or_nothing .deferring () ["CREATE TABLE t((a,number,1,0))"] .deferring ()
  have hrefused : (Session.process .deferring ⟨before, ()⟩
      "CREATE TABLE u((a,string,1,0),(b,word,1,0))").outcome =
        .handled .createTable (.error (.schema (.unknownType "word"))) := rfl
  refine ⟨?_, ?_, ?_⟩
  · exact (hall _).2.1 (hrefused ▸ .refused _ _)
  · exact ((hall "CREATE TABLE u((a,string,1,0))").2.2.1 "u" false rfl).2.2.1
  · exact ((hall "DROP TABLE t").2.2.2 "t" rfl).2.2.1

end Session

end SchemaShell
