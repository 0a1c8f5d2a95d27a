import SchemaShell.Proofs.Session.Reachable

/-!
# The journal tells what happened

The events of a line begin with what the line was taken for and end with the reason why it was refused,
if it was. Between them stands what was done to the tables, so that the names of the tables can be read
off the texts of the journal.
-/

namespace SchemaShell

open Command Written Journal

variable {σ : Type} {handler : Handler σ} {session : Session σ} {line name : String}

namespace Outcome

/-- What a line was taken for. -/
def opening (line : String) : Outcome → Event
  | .unrecognized => .unrecognized line
  | .malformed error => .classified error.kind
  | .handled kind _ => .classified kind

/-- Why a line was refused. -/
def warning? : Outcome → Option Event
  | .unrecognized | .handled _ (.ok _) => none
  | .malformed error => some (.malformed error.kind)
  | .handled kind (.error refusal) => some (.rejected kind refusal)

/-- What was done to the tables, given the catalog after it. -/
def notice? (after : Catalog) : Outcome → Option Event
  | .handled .createTable (.ok (.tableCreated name _)) =>
    (after.store.get? name).map fun table => .created name table.columns.length
  | .handled .createTable (.ok (.tableExists name)) => some (.alreadyExists name)
  | .handled .dropTable (.ok (.tableDropped name)) => some (.dropped name)
  | _ => none

theorem level_opening (outcome : Outcome) (line : String) : (outcome.opening line).level = .debug := by
  cases outcome <;> rfl

theorem level_warning {outcome : Outcome} {event : Event} (h : event ∈ outcome.warning?) :
    event.level = .warn := by
  unfold warning? at h
  split at h <;> cases h <;> rfl

theorem level_notice {outcome : Outcome} {after : Catalog} {event : Event}
    (h : event ∈ outcome.notice? after) : event.level = .info := by
  unfold notice? at h
  split at h
  · obtain ⟨table, -, rfl⟩ := Option.map_eq_some_iff.mp h
    rfl
  all_goals cases h <;> rfl

theorem notice?_created {catalog : Catalog} {table : Schema.Table} {name : String}
    (hname : table.name = name) (ifNotExists : Bool) :
    notice? (catalog.add table) (.handled .createTable (.ok (.tableCreated name ifNotExists))) =
      some (.created name table.columns.length) := by
  simp [notice?, Catalog.add, Catalog.Store.get?_put, hname]

theorem notice?_of_other {kind : Kind} (hc : kind ≠ .createTable) (hd : kind ≠ .dropTable)
    (after : Catalog) (result : Except Refusal Report) : notice? after (.handled kind result) = none := by
  unfold notice?
  split <;> simp_all

end Outcome

namespace Session

/-! ## The events of one line -/

/-- The events that the session itself wrote. -/
def ownEvents (events : List Event) : List Event :=
  events.filter (·.source = .session)

theorem ownEvents_handOn (handler : Handler σ) (session : Session σ) (command : Command) :
    ownEvents (session.handOn handler command).events = [] := by
  refine List.filter_eq_nil_iff.mpr fun event hevent => ?_
  obtain ⟨note, -, rfl⟩ := List.mem_map.mp hevent
  simp [Event.source]

theorem ownEvents_rejection (kind : Kind) (result : Except Refusal Report) :
    ownEvents (rejection kind result) = (Outcome.warning? (.handled kind result)).toList := by
  cases result <;> rfl

theorem filter_level_of_forall {events : List Event} {own : Level}
    (h : ∀ event ∈ events, event.level = own) (level : Level) :
    events.filter (·.level = level) = if own = level then events else [] := by
  split
  · next heq =>
    refine List.filter_eq_self.mpr fun event hevent => ?_
    simp [h event hevent, heq]
  · next hne =>
    refine List.filter_eq_nil_iff.mpr fun event hevent => ?_
    simp [h event hevent, hne]

namespace Effect

variable {step : Step σ}

theorem ownEvents_eq (h : Effect handler session line step) :
    ownEvents step.events = step.outcome.opening line ::
      ((step.outcome.notice? step.session.catalog).toList ++ step.outcome.warning?.toList) := by
  cases h with
  | created reads fresh builds =>
    obtain ⟨hname, -⟩ := reads.wellFormed_of_build builds
    rw [Outcome.notice?_created hname]
    rfl
  | @handedOn kind command reads notCreate notDrop =>
    -- What stands between the first event and the warning was written by the handler.
    have hnotes := ownEvents_handOn handler session command
    have hrejection := ownEvents_rejection kind (handler.reply session.handlerState command).result
    have hnotice := Outcome.notice?_of_other notCreate notDrop session.catalog
      (handler.reply session.handlerState command).result
    rw [ownEvents] at hnotes hrejection ⊢
    simp only [List.cons_append, List.filter_cons, List.filter_append, hnotes, hrejection,
      catalog_handOn, hnotice]
    rfl
  | malformed opens fails =>
    obtain ⟨-, rfl⟩ := validate_eq_error_iff.mp fails
    rfl
  | _ => rfl

theorem filter_level (h : Effect handler session line step) (level : Level) :
    (ownEvents step.events).filter (·.level = level) =
      match level with
      | .debug => [step.outcome.opening line]
      | .info => (step.outcome.notice? step.session.catalog).toList
      | .warn => step.outcome.warning?.toList
      | .error | .trace => [] := by
  have hopening := step.outcome.level_opening line
  have hnotice : ∀ event ∈ (step.outcome.notice? step.session.catalog).toList, event.level = .info :=
    fun event hevent => Outcome.level_notice (Option.mem_toList.mp hevent)
  have hwarning : ∀ event ∈ step.outcome.warning?.toList, event.level = .warn :=
    fun event hevent => Outcome.level_warning (Option.mem_toList.mp hevent)
  rw [h.ownEvents_eq, List.filter_cons, List.filter_append, filter_level_of_forall hnotice,
    filter_level_of_forall hwarning, hopening]
  cases level <;> simp

theorem getLast?_events (h : Effect handler session line step) {warning : Event}
    (hwarning : warning ∈ step.outcome.warning?) : step.events.getLast? = some warning := by
  cases h with
  | malformed opens fails =>
    obtain ⟨-, rfl⟩ := validate_eq_error_iff.mp fails
    exact hwarning
  | @handedOn kind command reads notCreate notDrop =>
    generalize (handler.reply session.handlerState command).result = result at hwarning ⊢
    cases result with
    | ok report => cases hwarning
    | error refusal =>
      rw [rejection, List.getLast?_append]
      exact hwarning
  | duplicateTable | badColumns | listNotAllowed | notDropped => exact hwarning
  | _ => cases hwarning

theorem isSome_notice?_iff (h : Effect handler session line step) :
    (step.outcome.notice? step.session.catalog).isSome = true ↔
      ∃ kind report, step.outcome = .handled kind (.ok report) ∧
        (kind = .createTable ∨ kind = .dropTable) := by
  cases h with
  | created reads fresh builds =>
    obtain ⟨hname, -⟩ := reads.wellFormed_of_build builds
    simp [Outcome.notice?_created hname]
  | handedOn reads notCreate notDrop =>
    rw [Outcome.notice?_of_other notCreate notDrop]
    simp [notCreate, notDrop]
  | _ => simp [Outcome.notice?, refused]

end Effect

/-! ## Reading the journal -/

def journal (handler : Handler σ) : Session σ → List String → List Event
  | _, [] => []
  | session, line :: lines =>
    (session.process handler line).events ++ journal handler (session.process handler line).session lines

/-- The texts by which the session informs about the tables. -/
def notices (events : List Event) : List String :=
  ((ownEvents events).filter (·.level = .info)).map Event.message

theorem notices_append (events more : List Event) :
    notices (events ++ more) = notices events ++ notices more := by
  simp [notices, ownEvents]

/-- The names of the tables after a notice, told by its words. -/
def replay (names : List String) (notice : String) : List String :=
  match (Text.words notice.toList).map String.ofList with
  | ["table", name, "created", "with", _, "column(s)"] => names ++ [name]
  | ["table", name, "dropped"] => names.erase name
  | _ => names

theorem words_of_pieces {pieces : List String} (h : ∀ piece ∈ pieces, Text.Solid piece.toList) :
    (Text.words (" ".intercalate pieces).toList).map String.ofList = pieces := by
  have hsolid : ∀ text ∈ pieces.map String.toList, Text.Solid text := by
    simpa using h
  have htext : (" ".intercalate pieces).toList = [' '].intercalate (pieces.map String.toList) :=
    String.toList_intercalate
  rw [htext, Text.words_intercalate hsolid, List.map_map]
  simp

section

variable {names : List String}

theorem replay_created (hname : Text.Solid name.toList) (columns : Nat) :
    replay names (Event.created name columns).message = names ++ [name] := by
  have hcount : Text.Solid (Text.decimal columns).toList := Text.solid_decimal columns
  change replay names ("table " ++ name ++ " created with " ++ Text.decimal columns ++ " column(s)") = _
  generalize Text.decimal columns = count at hcount ⊢
  have hmessage : "table " ++ name ++ " created with " ++ count ++ " column(s)" =
      " ".intercalate ["table", name, "created", "with", count, "column(s)"] := by
    apply String.toList_inj.mp
    simp
  have hpieces : ∀ piece ∈ ["table", name, "created", "with", count, "column(s)"],
      Text.Solid piece.toList := by
    simp only [List.forall_mem_cons]
    exact ⟨by decide, hname, by decide, by decide, hcount, by decide⟩
  rw [hmessage, replay, words_of_pieces hpieces]
  rfl

theorem replay_dropped (hname : Text.Solid name.toList) :
    replay names (Event.dropped name).message = names.erase name := by
  have hmessage : (Event.dropped name).message = " ".intercalate ["table", name, "dropped"] := by
    unfold Event.message
    apply String.toList_inj.mp
    simp
  have hpieces : ∀ piece ∈ ["table", name, "dropped"], Text.Solid piece.toList := by
    simp only [List.forall_mem_cons]
    exact ⟨by decide, hname, by decide⟩
  rw [hmessage, replay, words_of_pieces hpieces]
  rfl

theorem replay_alreadyExists (hname : Text.Solid name.toList) :
    replay names (Event.alreadyExists name).message = names := by
  have hmessage : (Event.alreadyExists name).message =
      " ".intercalate ["table", name, "already", "exists,", "skipping"] := by
    unfold Event.message
    apply String.toList_inj.mp
    simp
  have hpieces : ∀ piece ∈ ["table", name, "already", "exists,", "skipping"],
      Text.Solid piece.toList := by
    simp only [List.forall_mem_cons]
    exact ⟨by decide, hname, by decide, by decide, by decide⟩
  rw [hmessage, replay, words_of_pieces hpieces]
  rfl

end

theorem solid_tableName {command : Command} (h : Reads line .createTable command) :
    Text.Solid command.tableName.toList := by
  obtain ⟨f, rest, rfl⟩ := h.exists_form
  have hname := f.isName.word
  rw [tableName_written, String.toList_ofList]
  exact Text.solid_of_alphanum hname.1 hname.2

/-- The notices of one line lead from the names before it to the names after it. -/
theorem Effect.foldl_notices {step : Step σ} (h : Effect handler session line step) :
    (notices step.events).foldl replay session.catalog.registry.names =
      step.session.catalog.registry.names := by
  have hnotices : notices step.events =
      (step.outcome.notice? step.session.catalog).toList.map Event.message :=
    congrArg (List.map Event.message) (h.filter_level .info)
  rw [hnotices]
  cases h with
  | tableExists reads known clause => exact replay_alreadyExists (solid_tableName reads)
  | created reads fresh builds =>
    obtain ⟨hname, -⟩ := reads.wellFormed_of_build builds
    rw [Outcome.notice?_created hname, Catalog.add, Catalog.Registry.names_register, hname]
    exact replay_created (solid_tableName reads) _
  | dropped reads alone drops =>
    obtain ⟨-, hnames⟩ := Catalog.Registry.unregister_eq_ok_iff.mp drops
    have hname := word_tableName reads.fits
    rw [← hnames]
    exact replay_dropped (Text.solid_of_alphanum hname.1 hname.2)
  | handedOn reads notCreate notDrop =>
    rw [Outcome.notice?_of_other notCreate notDrop]
    rfl
  | _ => rfl

theorem foldl_notices_journal (handler : Handler σ) (session : Session σ) (lines : List String) :
    (notices (session.journal handler lines)).foldl replay session.catalog.registry.names =
      (session.processAll handler lines).catalog.registry.names := by
  -- The names that are read off the journal are those of the session line by line.
  induction lines generalizing session with
  | nil => rfl
  | cons line lines ih =>
    rw [journal, notices_append, List.foldl_append, (process_effect handler session line).foldl_notices,
      ih, processAll_cons]

example : ["table t created with 2 column(s)", "table u created with 1 column(s)",
    "table u already exists, skipping", "table t dropped"].foldl replay [] = ["u"] := by decide

theorem Effect.exists_table_of_created {step : Step σ} {columns : Nat}
    (h : Effect handler session line step) (hevent : .created name columns ∈ ownEvents step.events) :
    ∃ table, step.session.catalog.store.get? name = some table ∧ table.columns.length = columns := by
  have hinfo : Event.created name columns ∈ (ownEvents step.events).filter (·.level = .info) :=
    List.mem_filter.mpr ⟨hevent, rfl⟩
  rw [h.filter_level .info, Option.mem_toList] at hinfo
  unfold Outcome.notice? at hinfo
  split at hinfo
  · obtain ⟨table, htable, hcreated⟩ := Option.map_eq_some_iff.mp hinfo
    cases hcreated
    exact ⟨table, htable, rfl⟩
  all_goals cases hinfo

/-- The journal of a session is faithful. What the session writes about a line begins with the one
record that says what the line was taken for, has one warning at its very end if the line was malformed
or refused, and one notice if CREATE TABLE or DROP TABLE succeeded. The notices in order rebuild the
names of the tables, and each creation counts the columns of the table that is then stored. -/
theorem journal_is_faithful (handler : Handler σ) (handlerState : σ) (lines : List String) :
    let session := (start handlerState).processAll handler lines
    (∀ line,
      let step := session.process handler line
      let own := step.events.filter (·.source = .session)
      own.head? = some (step.outcome.opening line) ∧
      own.filter (·.level = .debug) = [step.outcome.opening line] ∧
      own.filter (·.level = .warn) = step.outcome.warning?.toList ∧
      (∀ warning ∈ step.outcome.warning?, step.events.getLast? = some warning) ∧
      own.filter (·.level = .info) = (step.outcome.notice? step.session.catalog).toList ∧
      ((step.outcome.notice? step.session.catalog).isSome = true ↔
        ∃ kind report, step.outcome = .handled kind (.ok report) ∧
          (kind = .createTable ∨ kind = .dropTable)) ∧
      ∀ name columns, .created name columns ∈ own →
        ∃ table, step.session.catalog.store.get? name = some table ∧ table.columns.length = columns) ∧
    (notices ((start handlerState).journal handler lines)).foldl replay [] =
      session.catalog.registry.names := by
  intro session
  constructor
  · intro line step own
    have h : Effect handler session line step := process_effect handler session line
    have hhead : own.head? = some (step.outcome.opening line) := by
      change (ownEvents step.events).head? = _
      rw [h.ownEvents_eq]
      rfl
    exact ⟨hhead, h.filter_level .debug, h.filter_level .warn, fun _ => h.getLast?_events,
      h.filter_level .info, h.isSome_notice?_iff, fun _ _ => h.exists_table_of_created⟩
  · exact foldl_notices_journal handler (start handlerState) lines

theorem journal_is_faithful_to_refusal :
    let lines := ["CREATE TABLE t((a,number,1,0))"]
    let step := ((start ()).processAll .deferring lines).process .deferring "DROP TABLE u"
    step.outcome.warning? = some (.rejected .dropTable (.registry (.notFound "u"))) ∧
      step.events.getLast? = some (.rejected .dropTable (.registry (.notFound "u"))) ∧
      (notices ((start ()).journal .deferring lines)).foldl replay [] = ["t"] := by
  intro lines step
  have hall := journal_is_faithful .deferring () lines
  have hwarning : step.outcome.warning? = some (.rejected .dropTable (.registry (.notFound "u"))) := rfl
  exact ⟨hwarning, (hall.1 "DROP TABLE u").2.2.2.1 _ hwarning, hall.2.trans rfl⟩

end Session

end SchemaShell
