import SchemaShell.Proofs.Console.Manner
import SchemaShell.Proofs.Session.History

/-!
# What a quiet console leaves out

A dialogue is a row of turns, in each of which one thing is received and replied to. A quiet dialogue
takes the same turns. It replies as a loud one does, but leaves out the schema of a new table.
-/

namespace SchemaShell.Console

open Command Session

variable {σ : Type}

/-- Something that is received, and the session that receives it. -/
structure Turn (σ : Type) where
  session : Session σ
  received : Received

def Turn.reply (mode : Mode σ) (turn : Turn σ) : String :=
  (mode.react turn.session turn.received).text

def Turn.events (mode : Mode σ) (turn : Turn σ) : List Journal.Event :=
  (mode.react turn.session turn.received).events

/-! ## The reply to a command -/

/-- What is shown in front of a schema. -/
def clauseNotice (ifNotExists : Bool) : String :=
  if ifNotExists then ended "IF NOT EXISTS used." else ""

/-- The schema that is stored under a name, as it is shown. -/
def shownSchema (catalog : Catalog) (name : String) : String :=
  (catalog.store.get? name).elim "" fun table => ended table.display

variable {catalog : Catalog} {kind : Kind} {name : String} {ifNotExists : Bool}

theorem render_created_quiet :
    render catalog true (.handled kind (.ok (.tableCreated name ifNotExists))) =
      clauseNotice ifNotExists ++ ended ("Table " ++ name ++ " has been created.") := by
  unfold render renderReport
  cases h : catalog.store.get? name <;> simp [h, clauseNotice, Report.message]

theorem render_created_loud :
    render catalog false (.handled kind (.ok (.tableCreated name ifNotExists))) =
      clauseNotice ifNotExists ++
        (shownSchema catalog name ++ ended ("Table " ++ name ++ " has been created.")) := by
  unfold render renderReport shownSchema
  cases h : catalog.store.get? name <;> simp [h, clauseNotice, Report.message, String.append_assoc]

theorem render_of_other {outcome : Outcome}
    (h : ∀ kind name ifNotExists, outcome ≠ .handled kind (.ok (.tableCreated name ifNotExists))) :
    render catalog false outcome = render catalog true outcome := by
  cases outcome with
  | unrecognized => rfl
  | malformed error => rfl
  | handled kind result =>
    cases result with
    | error refusal => rfl
    | ok report =>
      cases report with
      | tableCreated name ifNotExists => exact absurd rfl (h kind name ifNotExists)
      | _ => rfl

namespace Manner

/-- The turns of a dialogue, of which none depends on what is shown. -/
def turns (manner : Manner) (handler : Handler σ) : Session σ → List Received → List (Turn σ)
  | _, [] => []
  | session, received :: rest =>
    ⟨session, received⟩ ::
      if manner.goesOn received then
        turns manner handler (session.processAll handler (manner.command? received).toList) rest
      else []

variable (manner : Manner) (handler : Handler σ) (quiet : Bool) (session : Session σ)

theorem react_of_command {received : Received} {line : String}
    (h : manner.command? received = some line) :
    (manner.mode handler quiet).react session received = .toCommand handler quiet session line := by
  cases manner with
  | script =>
    cases received with
    | line text =>
      cases h
      rfl
    | _ => cases h
  | interactive prompt =>
    cases received with
    | line text =>
      simp only [command?] at h
      split at h
      · next hplain =>
        cases h
        simp only [mode, Mode.interactive, interactiveReact, hplain]
      · cases h
    | _ => cases h

theorem react_of_no_command {received : Received} (h : manner.command? received = none) :
    (manner.mode handler quiet).react session received =
      (manner.mode handler true).react session received := by
  cases manner with
  | script =>
    cases received with
    | line text => cases h
    | _ => rfl
  | interactive prompt =>
    cases received with
    | line text =>
      simp only [mode, Mode.interactive, interactiveReact]
      simp only [command?] at h
      rcases hword : Directive.ofLine? text with _ | _ | _
      · simp [hword] at h
      · rfl
      · rfl
    | _ => rfl

theorem events_eq (turn : Turn σ) :
    turn.events (manner.mode handler quiet) = turn.events (manner.mode handler true) := by
  unfold Turn.events
  cases h : manner.command? turn.received with
  | none => rw [manner.react_of_no_command handler _ _ h]
  | some line =>
    rw [manner.react_of_command handler _ _ h, manner.react_of_command handler _ _ h]
    simp only [Reaction.toCommand]

theorem converse_turns (all : List Received) :
    (converse (manner.mode handler quiet) .unlimited session all).output =
        Text.bytes (String.join ((manner.turns handler session all).map fun turn =>
          (manner.mode handler quiet).prompt ++ turn.reply (manner.mode handler quiet))) ∧
      (converse (manner.mode handler quiet) .unlimited session all).events =
        (manner.turns handler session all).flatMap (Turn.events (manner.mode handler quiet)) := by
  -- The first turn is the first round of the dialogue, and both go on from the same session or end.
  induction all generalizing session with
  | nil => exact ⟨rfl, rfl⟩
  | cons received rest ih =>
    have hsession := session_react manner handler quiet session received
    have hending := ending_react manner handler quiet session received
    rw [turns, goesOn]
    cases h : manner.ending? received with
    | some result =>
      rw [h] at hending
      rw [converse_of_ending hending]
      simp [Turn.reply, Turn.events, Text.bytes_append]
    | none =>
      rw [h] at hending
      obtain ⟨houtput, hevents⟩ := ih (session.processAll handler (manner.command? received).toList)
      rw [← hsession] at houtput hevents
      rw [converse_of_goesOn hending rfl, houtput, hevents, hsession]
      simp [Turn.reply, Turn.events, Text.bytes_append, String.append_assoc]

/-- The turn is a command that is answered with a new table. -/
def Creates (turn : Turn σ) (line : String) (kind : Kind) (name : String) (ifNotExists : Bool) : Prop :=
  manner.command? turn.received = some line ∧
    (turn.session.process handler line).outcome = .handled kind (.ok (.tableCreated name ifNotExists))

section

variable {manner handler} {turn : Turn σ} {line : String} {kind : Kind} {name : String} {ifNotExists : Bool}

theorem Creates.quiet_reply (h : manner.Creates handler turn line kind name ifNotExists) :
    turn.reply (manner.mode handler true) =
      clauseNotice ifNotExists ++ ended ("Table " ++ name ++ " has been created.") := by
  rw [Turn.reply, manner.react_of_command handler _ _ h.1, text_toCommand, h.2, render_created_quiet]

theorem Creates.loud_reply (h : manner.Creates handler turn line kind name ifNotExists) :
    turn.reply (manner.mode handler false) =
      clauseNotice ifNotExists ++
        (shownSchema (turn.session.process handler line).session.catalog name ++
          ended ("Table " ++ name ++ " has been created.")) := by
  rw [Turn.reply, manner.react_of_command handler _ _ h.1, text_toCommand, h.2, render_created_loud]

theorem Creates.exists_table (h : manner.Creates handler turn line .createTable name ifNotExists) :
    ∃ table, Builds line name table ∧
      (turn.session.process handler line).session.catalog.store.get? name = some table ∧
      shownSchema (turn.session.process handler line).session.catalog name = ended table.display := by
  obtain ⟨table, hbuilds, hname, -, -, hsession⟩ := exists_table_of_tableCreated h.2
  have hstored : (turn.session.process handler line).session.catalog.store.get? name = some table := by
    rw [hsession, Catalog.add, Catalog.Store.get?_put, if_pos hname.symm]
  refine ⟨table, hbuilds, hstored, ?_⟩
  rw [shownSchema, hstored]
  rfl

theorem reply_of_not_creates
    (h : ∀ line kind name ifNotExists, ¬manner.Creates handler turn line kind name ifNotExists) :
    turn.reply (manner.mode handler false) = turn.reply (manner.mode handler true) := by
  unfold Turn.reply
  cases hcommand : manner.command? turn.received with
  | none => rw [manner.react_of_no_command handler _ _ hcommand]
  | some line =>
    rw [manner.react_of_command handler _ _ hcommand, manner.react_of_command handler _ _ hcommand, text_toCommand,
      text_toCommand]
    exact render_of_other fun kind name ifNotExists houtcome =>
      h line kind name ifNotExists ⟨hcommand, houtcome⟩

end

end Manner

/-- Quiet hides the schemas of new tables and nothing else. A quiet dialogue and a loud one over the same
input have the same result, session and journal. They take the same turns with the same prompts, and
reply alike but for the commands that create a table. There the loud reply has the schema of the stored
table in it, which was built from that command, right before the line which says that the table has been
created. -/
theorem quiet_hides_schemas_only (manner : Manner) (handler : Handler σ) (session : Session σ)
    (input : Input) :
    let loudMode := manner.mode handler false
    let quietMode := manner.mode handler true
    let loud := loudMode.run .unlimited session input
    let quiet := quietMode.run .unlimited session input
    let turns := manner.turns handler session input.received
    loud.result = quiet.result ∧ loud.session = quiet.session ∧ loud.events = quiet.events ∧
    loudMode.opening = quietMode.opening ∧ loudMode.prompt = quietMode.prompt ∧
    loud.output = Text.bytes
      (loudMode.opening ++ String.join (turns.map fun turn => loudMode.prompt ++ turn.reply loudMode)) ∧
    quiet.output = Text.bytes
      (quietMode.opening ++ String.join (turns.map fun turn => quietMode.prompt ++ turn.reply quietMode)) ∧
    (∀ turn ∈ turns,
      (∀ line kind name ifNotExists, manner.Creates handler turn line kind name ifNotExists →
        let after := (turn.session.process handler line).session.catalog
        let created := ended ("Table " ++ name ++ " has been created.")
        turn.reply quietMode = clauseNotice ifNotExists ++ created ∧
        turn.reply loudMode = clauseNotice ifNotExists ++ (shownSchema after name ++ created) ∧
        (kind = .createTable → ∃ table, Builds line name table ∧ after.store.get? name = some table ∧
          shownSchema after name = ended table.display)) ∧
      ((∀ line kind name ifNotExists, ¬manner.Creates handler turn line kind name ifNotExists) →
        turn.reply loudMode = turn.reply quietMode)) ∧
    ∀ (turn : Turn Unit) line kind name ifNotExists,
      manner.Creates .deferring turn line kind name ifNotExists → kind = .createTable := by
  intro loudMode quietMode loud quiet turns
  obtain ⟨hloudSession, hloudResult⟩ := manner.converse_eq handler false session input.received
  obtain ⟨hquietSession, hquietResult⟩ := manner.converse_eq handler true session input.received
  obtain ⟨hloudOutput, hloudEvents⟩ := manner.converse_turns handler false session input.received
  obtain ⟨hquietOutput, hquietEvents⟩ := manner.converse_turns handler true session input.received
  have hevents : loud.events = quiet.events := by
    refine hloudEvents.trans (Eq.trans ?_ hquietEvents.symm)
    exact congrArg (turns.flatMap ·) (funext fun turn => manner.events_eq handler false turn)
  refine ⟨hloudResult.trans hquietResult.symm, hloudSession.trans hquietSession.symm, hevents, ?_, ?_, ?_,
    ?_, ?_, fun _ _ _ _ _ h => kind_of_tableCreated h.2⟩
  · cases manner <;> rfl
  · cases manner <;> rfl
  · rw [Text.bytes_append]
    exact congrArg (_ ++ ·) hloudOutput
  · rw [Text.bytes_append]
    exact congrArg (_ ++ ·) hquietOutput
  · intro turn _
    refine ⟨?_, Manner.reply_of_not_creates⟩
    intro line kind name ifNotExists h after created
    refine ⟨h.quiet_reply, h.loud_reply, ?_⟩
    rintro rfl
    exact h.exists_table

theorem quiet_hides_schemas_only_of_one :
    ∃ turn ∈ Manner.script.turns .deferring (start ()) [.line "CREATE TABLE t((a,number,1,0))", .finished],
      Manner.script.Creates .deferring turn "CREATE TABLE t((a,number,1,0))" .createTable "t" false ∧
      turn.reply (Manner.script.mode .deferring true) = ended "Table t has been created." ∧
      ∃ table, Builds "CREATE TABLE t((a,number,1,0))" "t" table ∧
        turn.reply (Manner.script.mode .deferring false) =
          ended table.display ++ ended "Table t has been created." := by
  let turn : Turn Unit := ⟨start (), .line "CREATE TABLE t((a,number,1,0))"⟩
  have hreceived : (⟨Text.bytes "CREATE TABLE t((a,number,1,0))\n", none⟩ : Input).received =
      [.line "CREATE TABLE t((a,number,1,0))", .finished] := rfl
  have hcreates :
      Manner.script.Creates .deferring turn "CREATE TABLE t((a,number,1,0))" .createTable "t" false :=
    ⟨rfl, rfl⟩
  obtain ⟨-, -, -, -, -, -, -, hturns, -⟩ := quiet_hides_schemas_only .script .deferring (start ())
    ⟨Text.bytes "CREATE TABLE t((a,number,1,0))\n", none⟩
  rw [hreceived] at hturns
  obtain ⟨hquiet, hloud, hstored⟩ := (hturns turn List.mem_cons_self).1 _ _ _ _ hcreates
  obtain ⟨table, hbuilds, -, hshown⟩ := hstored rfl
  have hnotice : clauseNotice false = "" := rfl
  rw [hnotice, String.empty_append] at hquiet hloud
  rw [hshown] at hloud
  exact ⟨turn, List.mem_cons_self, hcreates, hquiet, table, hbuilds, hloud⟩

example :
    let input : Input := ⟨Text.bytes "CREATE TABLE t((a,number,1,0))\n", none⟩
    ((Mode.script .deferring true).run .unlimited (.start ()) input).output =
        Text.bytes "Table t has been created.\n" ∧
      ((Mode.script .deferring false).run .unlimited (.start ()) input).output = Text.bytes
        ("------ <t> ------\nColumn name: a\nType: number\nSize: 1\nDefault: 0\n~~~~~~~~~~~~~~~~\n" ++
          "Table t has been created.\n") :=
  ⟨rfl, rfl⟩

end SchemaShell.Console
