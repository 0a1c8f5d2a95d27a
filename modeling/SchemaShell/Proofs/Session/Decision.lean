import SchemaShell.Proofs.Session.CreateTable

/-!
# What decides about a new table

CREATE TABLE looks up the name first, then the clause, and the columns last. A line with the clause can
therefore be sent twice: the second time it finds what the first time left.
-/

namespace SchemaShell

open Command Schema

variable {σ : Type} {session : Session σ} {line : String} {command : Command}

/-! ## The catalog -/

namespace Catalog

variable {catalog : Catalog}

theorem createTable_of_known (known : command.tableName ∈ catalog.registry.names) :
    catalog.createTable command =
      if (command.get? .ifNotExists).isSome then
        ⟨catalog, .ok (.tableExists command.tableName), [.alreadyExists command.tableName]⟩
      else catalog.refuse (.duplicateTable command.tableName) := by
  have hknown := Registry.contains_iff.mpr known
  unfold createTable
  rw [← Command.tableName]
  simp only [hknown, if_true]

theorem createTable_of_bad_columns {error : BuildError}
    (fresh : command.tableName ∉ catalog.registry.names)
    (fails : build command.tableName ((command.get? .columns).getD "") = .error error) :
    catalog.createTable command = catalog.refuse (.schema error) := by
  have hfresh : catalog.registry.contains command.tableName = false := by
    refine Bool.eq_false_iff.mpr ?_
    intro hknown
    exact fresh (Registry.contains_iff.mp hknown)
  unfold createTable
  rw [← Command.tableName]
  simp only [hfresh, fails, Bool.false_eq_true, if_false]

end Catalog

namespace Session

/-! ## One line -/

/-- The session and the answer that a line leads to. -/
def After (handler : Handler σ) (session : Session σ) (line : String) (next : Session σ)
    (result : Except Refusal Report) : Prop :=
  (session.process handler line).session = next ∧
    (session.process handler line).outcome = .handled .createTable result

theorem after_createTable (handler : Handler σ) (session : Session σ) (h : Reads line .createTable command) :
    After handler session line { session with catalog := (session.catalog.createTable command).catalog }
      (session.catalog.createTable command).result := by
  unfold After
  rw [process_of_reads h, carryOut_createTable h]
  exact ⟨rfl, rfl⟩

theorem after_of_known (handler : Handler σ) (h : Reads line .createTable command)
    (known : command.tableName ∈ session.catalog.registry.names) :
    After handler session line session
      (if (command.get? .ifNotExists).isSome then .ok (.tableExists command.tableName)
      else .error (.duplicateTable command.tableName)) := by
  have hafter := after_createTable handler session h
  rw [Catalog.createTable_of_known known] at hafter
  split at hafter
  · next clause =>
    rw [if_pos clause]
    exact hafter
  · next clause =>
    rw [if_neg clause]
    exact hafter

theorem after_of_bad_columns {error : BuildError} (handler : Handler σ) (h : Reads line .createTable command)
    (fresh : command.tableName ∉ session.catalog.registry.names)
    (fails : build command.tableName ((command.get? .columns).getD "") = .error error) :
    After handler session line session (.error (.schema error)) := by
  have hafter := after_createTable handler session h
  rwa [Catalog.createTable_of_bad_columns fresh fails] at hafter

theorem after_of_good_columns {table : Table} (handler : Handler σ) (h : Reads line .createTable command)
    (fresh : command.tableName ∉ session.catalog.registry.names)
    (builds : build command.tableName ((command.get? .columns).getD "") = .ok table) :
    After handler session line { session with catalog := session.catalog.add table }
      (.ok (.tableCreated command.tableName (command.get? .ifNotExists).isSome)) := by
  unfold After
  rw [process_created h fresh builds]
  exact ⟨rfl, rfl⟩

/-! ## The same line again -/

theorem known_of_created {table : Table} (h : Reads line .createTable command)
    (builds : build command.tableName ((command.get? .columns).getD "") = .ok table) (catalog : Catalog) :
    command.tableName ∈ (catalog.add table).registry.names := by
  obtain ⟨hname, -⟩ := h.wellFormed_of_build builds
  rw [Catalog.add, Catalog.Registry.names_register, hname]
  exact List.mem_append_right _ List.mem_cons_self

theorem known_or_refused (handler : Handler σ) (session : Session σ) (h : Reads line .createTable command) :
    command.tableName ∈ (session.process handler line).session.catalog.registry.names ∨
      ∃ error, After handler session line session (.error error) := by
  by_cases known : command.tableName ∈ session.catalog.registry.names
  · left
    rw [(after_of_known handler h known).1]
    exact known
  cases hbuild : build command.tableName ((command.get? .columns).getD "") with
  | error error => exact Or.inr ⟨_, after_of_bad_columns handler h known hbuild⟩
  | ok table =>
    left
    rw [(after_of_good_columns handler h known hbuild).1]
    exact known_of_created h hbuild session.catalog

theorem session_twice (handler : Handler σ) (session : Session σ) (h : Reads line .createTable command) :
    ((session.process handler line).session.process handler line).session =
      (session.process handler line).session := by
  rcases known_or_refused handler session h with known | ⟨error, hsession, -⟩
  · exact (after_of_known handler h known).1
  · rw [hsession]
    exact hsession

theorem outcome_twice {report : Report} (handler : Handler σ) (session : Session σ)
    (h : Reads line .createTable command) (clause : (command.get? .ifNotExists).isSome = true)
    (hreport : (session.process handler line).outcome = .handled .createTable (.ok report)) :
    ((session.process handler line).session.process handler line).outcome =
      .handled .createTable (.ok (.tableExists command.tableName)) := by
  rcases known_or_refused handler session h with known | ⟨error, -, herror⟩
  · have hafter := (after_of_known handler h known).2
    rwa [if_pos clause] at hafter
  · rw [hreport] at herror
    cases herror

/-- In any session a line that creates a table is decided in a fixed order. If the name is known, the line
is let pass with the clause and refused without it, whatever its columns are. If the name is new, the
columns decide. A line with the clause, sent a second time, changes nothing, and if it was not refused the
first time it now finds the table. -/
theorem createTable_decides_in_order (handler : Handler σ) (session : Session σ) {line : String}
    {command : Command} (hfits : validate .createTable line = .ok command) :
    ∃ name block, command.get? .table = some name ∧ command.get? .columns = some block ∧
      let names := session.catalog.registry.names
      let clause := (command.get? .ifNotExists).isSome
      (name ∈ names → After handler session line session
        (if clause then .ok (.tableExists name) else .error (.duplicateTable name))) ∧
      (name ∉ names → ∀ error, build name block = .error error →
        After handler session line session (.error (.schema error))) ∧
      (name ∉ names → ∀ table, build name block = .ok table →
        After handler session line { session with catalog := session.catalog.add table }
          (.ok (.tableCreated name clause))) ∧
      (clause = true →
        let once := (session.process handler line).session
        (once.process handler line).session = once ∧
        ∀ report, (session.process handler line).outcome = .handled .createTable (.ok report) →
          (once.process handler line).outcome = .handled .createTable (.ok (.tableExists name))) := by
  obtain ⟨f, rest, -, -, rfl⟩ := validate_createTable_eq_ok_iff.mp hfits
  have hreads : Reads line .createTable (f.command rest) := ⟨classify_of_fits hfits, hfits⟩
  have hblock : ((f.command rest).get? .columns).getD "" = String.ofList f.body.block := by
    rw [get?_columns, Option.getD_some]
  have hname := tableName_written f rest
  refine ⟨String.ofList f.name, String.ofList f.body.block, get?_table f rest, get?_columns f rest, ?_⟩
  rw [← hname, ← hblock]
  intro names clause
  refine ⟨?_, ?_, ?_, ?_⟩
  · intro known
    exact after_of_known handler hreads known
  · intro fresh error fails
    exact after_of_bad_columns handler hreads fresh fails
  · intro fresh table builds
    exact after_of_good_columns handler hreads fresh builds
  · intro hclause once
    refine ⟨session_twice handler session hreads, ?_⟩
    intro report hreport
    exact outcome_twice handler session hreads hclause hreport

theorem createTable_decides_in_order_of_known :
    let session := (start ()).processAll .deferring ["CREATE TABLE t((a,number,1,0))"]
    let line := "create table t if not exists((b,w,1,x));"
    let again := (session.process .deferring line).session
    (∃ command, validate .createTable line = .ok command) ∧
      After .deferring session line session (.ok (.tableExists "t")) ∧
      (again.process .deferring line).session = again ∧
      (again.process .deferring line).outcome = .handled .createTable (.ok (.tableExists "t")) := by
  have hfits : validate .createTable "create table t if not exists((b,w,1,x));" =
      .ok ⟨.createTable, [(.table, "t"), (.ifNotExists, "if not exists"), (.columns, "(b,w,1,x)")],
        "create table t if not exists((b,w,1,x))", ""⟩ := rfl
  intro session line again
  obtain ⟨name, block, hname, -, hknown, -, -, htwice⟩ :=
    createTable_decides_in_order .deferring session hfits
  obtain rfl : "t" = name := Option.some.inj hname
  have hnames : session.catalog.registry.names = ["t"] := rfl
  have hafter := hknown (by simp [hnames])
  obtain ⟨hsession, houtcome⟩ := htwice rfl
  exact ⟨⟨_, hfits⟩, hafter, hsession, houtcome _ hafter.2⟩

end Session

end SchemaShell
