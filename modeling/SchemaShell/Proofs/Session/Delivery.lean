import SchemaShell.Proofs.Session.Reachable

/-!
# What the handler is asked

Every well-formed command but CREATE TABLE and DROP TABLE is put to the handler, once and in the
order of the lines, and nothing else is. Its answer is the outcome of that line and of no other, and
no table depends on it.
-/

namespace SchemaShell

open Command

variable {σ τ : Type} {command : Command} {line : String}

namespace Handler

/-- The state of a handler after it was asked these commands. -/
def stateAfter (handler : Handler σ) (state : σ) (commands : List Command) : σ :=
  commands.foldl (fun state command => (handler.reply state command).state) state

/-- A handler that answers like the given one and keeps a list of the commands that it was asked. -/
def recording (handler : Handler σ) : Handler (σ × List Command) where
  reply state command :=
    let reply := handler.reply state.1 command
    ⟨(reply.state, state.2 ++ [command]), reply.result, reply.notes⟩

theorem stateAfter_recording (handler : Handler σ) (state : σ) (asked commands : List Command) :
    handler.recording.stateAfter (state, asked) commands =
      (handler.stateAfter state commands, asked ++ commands) := by
  induction commands generalizing state asked with
  | nil => simp [stateAfter]
  | cons command commands ih =>
    have hrest := ih (handler.reply state command).state (asked ++ [command])
    rw [List.append_assoc, List.singleton_append] at hrest
    exact hrest

end Handler

namespace Session

variable {handler : Handler σ} {session : Session σ} {other : Handler τ} {twin : Session τ}

/-! ## Which lines are handed on -/

/-- The command that a line puts to the handler. -/
def handedOn? (line : String) : Option Command :=
  (command? line).filter fun command => command.kind ≠ .createTable ∧ command.kind ≠ .dropTable

theorem handedOn?_eq_some_iff :
    handedOn? line = some command ↔
      ∃ kind, Reads line kind command ∧ kind ≠ .createTable ∧ kind ≠ .dropTable := by
  rw [handedOn?, Option.filter_eq_some_iff, command?_eq_some_iff, decide_eq_true_iff]
  constructor
  · rintro ⟨hreads, hkind⟩
    exact ⟨command.kind, hreads, hkind⟩
  · rintro ⟨kind, hreads, hkind⟩
    obtain rfl := hreads.kind_eq
    exact ⟨hreads, hkind⟩

example :
    (["SELECT ALL FROM t", "drop table t", "DROP INDEX", "CREATE", "DROP INDEX i"].filterMap
      handedOn?).map Command.kind = [.select, .dropIndex] := by rfl

theorem cases_of_not_handedOn (h : handedOn? line = none) :
    classify line = none ∨
      (∃ kind error, classify line = some kind ∧ validate kind line = .error error) ∨
      (∃ command, Reads line .createTable command) ∨ ∃ command, Reads line .dropTable command := by
  cases hopens : classify line with
  | none => exact .inl rfl
  | some kind =>
    cases hfits : validate kind line with
    | error error => exact .inr (.inl ⟨kind, error, rfl, hfits⟩)
    | ok command =>
      have hreads : Reads line kind command := ⟨hopens, hfits⟩
      by_cases hc : kind = .createTable
      · exact .inr (.inr (.inl ⟨command, hc ▸ hreads⟩))
      by_cases hd : kind = .dropTable
      · exact .inr (.inr (.inr ⟨command, hd ▸ hreads⟩))
      have hsome := handedOn?_eq_some_iff.mpr ⟨kind, hreads, hc, hd⟩
      rw [h] at hsome
      cases hsome

/-! ## One line -/

theorem process_of_handedOn (h : handedOn? line = some command) :
    (session.process handler line).session = (session.handOn handler command).session ∧
      (session.process handler line).outcome =
        .handled command.kind (handler.reply session.handlerState command).result := by
  obtain ⟨kind, hreads, hc, hd⟩ := handedOn?_eq_some_iff.mp h
  obtain rfl := hreads.kind_eq
  rw [process_of_reads hreads, carryOut_of_other hc hd]
  exact ⟨rfl, rfl⟩

/-- A line that is not handed on is dealt with before any handler is known. -/
theorem process_of_not_handedOn (h : handedOn? line = none) (catalog : Catalog) :
    ∃ after outcome events, ∀ {σ : Type} (handler : Handler σ) (state : σ),
      Session.process handler ⟨catalog, state⟩ line = ⟨⟨after, state⟩, outcome, events⟩ := by
  rcases cases_of_not_handedOn h with hopens | ⟨kind, error, hopens, hfits⟩ | ⟨command, hreads⟩ |
    ⟨command, hreads⟩
  · refine ⟨catalog, .unrecognized, [.unrecognized line], fun handler state => ?_⟩
    simp only [process, hopens]
  · refine ⟨catalog, .malformed error, [.classified kind, .malformed kind], fun handler state => ?_⟩
    simp only [process, hopens, hfits]
  · let change := catalog.createTable command
    refine ⟨change.catalog, .handled .createTable change.result,
      .classified .createTable :: change.events ++ rejection .createTable change.result,
      fun handler state => ?_⟩
    rw [process_of_reads hreads, carryOut_createTable hreads]
    rfl
  · let change := catalog.dropTable command
    refine ⟨change.catalog, .handled .dropTable change.result,
      .classified .dropTable :: change.events ++ rejection .dropTable change.result,
      fun handler state => ?_⟩
    rw [process_of_reads hreads, carryOut_dropTable hreads]
    rfl

theorem handlerState_process (handler : Handler σ) (session : Session σ) (line : String) :
    (session.process handler line).session.handlerState =
      handler.stateAfter session.handlerState (handedOn? line).toList := by
  cases hline : handedOn? line with
  | none =>
    obtain ⟨after, outcome, events, hprocess⟩ := process_of_not_handedOn hline session.catalog
    rw [hprocess handler session.handlerState]
    rfl
  | some command =>
    rw [(process_of_handedOn hline).1]
    rfl

theorem process_congr_of_not_handedOn (h : session.catalog = twin.catalog)
    (hline : handedOn? line = none) :
    (session.process handler line).session.catalog = (twin.process other line).session.catalog ∧
      (session.process handler line).outcome = (twin.process other line).outcome := by
  obtain ⟨after, outcome, events, hprocess⟩ := process_of_not_handedOn hline session.catalog
  have hsession : session.process handler line = _ := hprocess handler session.handlerState
  rw [h] at hprocess
  have htwin : twin.process other line = _ := hprocess other twin.handlerState
  rw [hsession, htwin]
  exact ⟨rfl, rfl⟩

theorem catalog_process_congr (h : session.catalog = twin.catalog) (line : String) :
    (session.process handler line).session.catalog = (twin.process other line).session.catalog := by
  cases hline : handedOn? line with
  | none => exact (process_congr_of_not_handedOn h hline).1
  | some command =>
    rw [(process_of_handedOn hline).1, (process_of_handedOn hline).1, catalog_handOn, catalog_handOn, h]

/-! ## All lines -/

theorem handlerState_processAll (handler : Handler σ) (session : Session σ) (lines : List String) :
    (session.processAll handler lines).handlerState =
      handler.stateAfter session.handlerState (lines.filterMap handedOn?) := by
  induction lines generalizing session with
  | nil => rfl
  | cons line lines ih =>
    rw [processAll_cons, ih, handlerState_process, List.filterMap_cons]
    cases handedOn? line <;> rfl

theorem catalog_processAll_congr (h : session.catalog = twin.catalog) (lines : List String) :
    (session.processAll handler lines).catalog = (twin.processAll other lines).catalog := by
  induction lines generalizing session twin with
  | nil => exact h
  | cons line lines ih =>
    rw [processAll_cons, processAll_cons]
    exact ih (catalog_process_congr h line)

/-- Two handlers on the same lines. Each goes through the states of one that is asked the commands
handed on, in their order, which a record of its calls confirms, and what it answers is the outcome of
the line. The tables, and the answers to all lines that are not handed on, are the same with both. -/
theorem handler_is_asked_once_per_command (handler : Handler σ) (state : σ) (other : Handler τ)
    (otherState : τ) (lines : List String) :
    let session := (start state).processAll handler lines
    let twin := (start otherState).processAll other lines
    (∀ line command, handedOn? line = some command ↔
      ∃ kind, Reads line kind command ∧ kind ≠ .createTable ∧ kind ≠ .dropTable) ∧
    session.handlerState = handler.stateAfter state (lines.filterMap handedOn?) ∧
    ((start (state, [])).processAll handler.recording lines).handlerState =
      (session.handlerState, lines.filterMap handedOn?) ∧
    (∀ line kind command, Reads line kind command → kind ≠ .createTable → kind ≠ .dropTable →
      (session.process handler line).outcome =
        .handled kind (handler.reply session.handlerState command).result) ∧
    session.catalog = twin.catalog ∧
    ∀ line, handedOn? line = none →
      (session.process handler line).outcome = (twin.process other line).outcome := by
  intro session twin
  have hstate := handlerState_processAll handler (start state) lines
  have hstart : (start state).catalog = (start otherState).catalog := rfl
  have hcatalog : session.catalog = twin.catalog := catalog_processAll_congr hstart lines
  refine ⟨fun _ _ => handedOn?_eq_some_iff, hstate, ?_, ?_, hcatalog, ?_⟩
  · rw [handlerState_processAll, start, Handler.stateAfter_recording, hstate]
    rfl
  · intro line kind command hreads hc hd
    have hline := handedOn?_eq_some_iff.mpr ⟨kind, hreads, hc, hd⟩
    rw [(process_of_handedOn hline).2, hreads.kind_eq]
  · intro line hline
    exact (process_congr_of_not_handedOn hcatalog hline).2

end Session

end SchemaShell
