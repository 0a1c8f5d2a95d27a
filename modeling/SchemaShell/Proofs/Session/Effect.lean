import SchemaShell.Proofs.Command.OneName
import SchemaShell.Proofs.Text.Words
import SchemaShell.Session.Basic

/-!
# What a line can do

`Effect` lists the ways in which a session can take a line: the session after it, the outcome, and
the events that are written down. All that is shown about the steps of a session starts from here.
-/

namespace SchemaShell

def Command.tableName (command : Command) : String :=
  (command.get? .table).getD ""

namespace Session

open Command

variable {σ : Type} {handler : Handler σ} {session : Session σ} {line : String}

/-- The line opens a command of the kind and has its shape. -/
structure Reads (line : String) (kind : Kind) (command : Command) : Prop where
  opens : classify line = some kind
  fits : validate kind line = .ok command

theorem Reads.kind_eq {kind : Kind} {command : Command} (h : Reads line kind command) :
    command.kind = kind := by
  obtain ⟨r, -, rfl⟩ := validate_eq_ok_iff.mp h.fits
  rfl

/-- The command that a line is, if it has the shape of the kind that it opens. -/
def command? (line : String) : Option Command :=
  (classify line).bind fun kind => (validate kind line).toOption

theorem Reads.command?_eq {kind : Kind} {command : Command} (h : Reads line kind command) :
    command? line = some command := by
  rw [command?, h.opens, Option.bind_some, h.fits]
  rfl

theorem command?_eq_some_iff {command : Command} :
    command? line = some command ↔ Reads line command.kind command := by
  constructor
  · intro h
    obtain ⟨kind, hopens, hfits⟩ := Option.bind_eq_some_iff.mp h
    have hfits : validate kind line = .ok command := by
      cases hresult : validate kind line with
      | error error => simp [hresult, Except.toOption] at hfits
      | ok other => simpa [hresult, Except.toOption] using hfits
    have hreads : Reads line kind command := ⟨hopens, hfits⟩
    rwa [← hreads.kind_eq] at hreads
  · exact Reads.command?_eq

def refused (session : Session σ) (kind : Kind) (refusal : Refusal) : Step σ :=
  ⟨session, .handled kind (.error refusal), [.classified kind, .rejected kind refusal]⟩

inductive Effect (handler : Handler σ) (session : Session σ) (line : String) : Step σ → Prop where
  | unrecognized (opens : classify line = none) :
    Effect handler session line ⟨session, .unrecognized, [.unrecognized line]⟩
  | malformed {kind : Kind} {error : FormatError} (opens : classify line = some kind)
      (fails : validate kind line = .error error) :
    Effect handler session line ⟨session, .malformed error, [.classified kind, .malformed kind]⟩
  | tableExists {command : Command} (reads : Reads line .createTable command)
      (known : command.tableName ∈ session.catalog.registry.names)
      (clause : (command.get? .ifNotExists).isSome = true) :
    Effect handler session line
      ⟨session, .handled .createTable (.ok (.tableExists command.tableName)),
        [.classified .createTable, .alreadyExists command.tableName]⟩
  | duplicateTable {command : Command} (reads : Reads line .createTable command)
      (known : command.tableName ∈ session.catalog.registry.names)
      (clause : (command.get? .ifNotExists).isSome = false) :
    Effect handler session line
      (session.refused .createTable (.duplicateTable command.tableName))
  | badColumns {command : Command} {error : Schema.BuildError} (reads : Reads line .createTable command)
      (fresh : command.tableName ∉ session.catalog.registry.names)
      (fails : Schema.build command.tableName ((command.get? .columns).getD "") = .error error) :
    Effect handler session line (session.refused .createTable (.schema error))
  | created {command : Command} {table : Schema.Table} (reads : Reads line .createTable command)
      (fresh : command.tableName ∉ session.catalog.registry.names)
      (builds : Schema.build command.tableName ((command.get? .columns).getD "") = .ok table) :
    Effect handler session line
      ⟨{ session with catalog := session.catalog.add table },
        .handled .createTable
          (.ok (.tableCreated command.tableName (command.get? .ifNotExists).isSome)),
        [.classified .createTable, .created command.tableName table.columns.length]⟩
  | listNotAllowed {command : Command} (reads : Reads line .dropTable command)
      (more : command.remainder.toList.all Text.isWhiteSpace = false) :
    Effect handler session line (session.refused .dropTable .listNotAllowed)
  | notDropped {command : Command} {error : Catalog.RegistryError}
      (reads : Reads line .dropTable command)
      (alone : command.remainder.toList.all Text.isWhiteSpace = true)
      (fails : session.catalog.registry.unregister command.tableName = .error error) :
    Effect handler session line (session.refused .dropTable (.registry error))
  | dropped {command : Command} {registry : Catalog.Registry} (reads : Reads line .dropTable command)
      (alone : command.remainder.toList.all Text.isWhiteSpace = true)
      (drops : session.catalog.registry.unregister command.tableName = .ok registry) :
    Effect handler session line
      ⟨{ session with catalog := ⟨registry, session.catalog.store.evict command.tableName⟩ },
        .handled .dropTable (.ok (.tableDropped command.tableName)),
        [.classified .dropTable, .dropped command.tableName]⟩
  | handedOn {kind : Kind} {command : Command} (reads : Reads line kind command)
      (notCreate : kind ≠ .createTable) (notDrop : kind ≠ .dropTable) :
    Effect handler session line
      ⟨(session.handOn handler command).session,
        .handled kind (handler.reply session.handlerState command).result,
        .classified kind :: (session.handOn handler command).events ++
          rejection kind (handler.reply session.handlerState command).result⟩

/-! ## A step has one of the effects -/

theorem process_of_reads {kind : Kind} {command : Command} (h : Reads line kind command) :
    session.process handler line =
      ⟨(session.carryOut handler command).session, .handled kind (session.carryOut handler command).result,
        .classified kind :: (session.carryOut handler command).events ++
          rejection kind (session.carryOut handler command).result⟩ := by
  simp only [process, h.opens, h.fits]

theorem carryOut_createTable {command : Command} (h : Reads line .createTable command) :
    session.carryOut handler command = session.withChange (session.catalog.createTable command) := by
  simp only [carryOut, h.kind_eq]

theorem carryOut_dropTable {command : Command} (h : Reads line .dropTable command) :
    session.carryOut handler command = session.withChange (session.catalog.dropTable command) := by
  simp only [carryOut, h.kind_eq]

theorem process_created {command : Command} {table : Schema.Table}
    (h : Reads line .createTable command)
    (fresh : command.tableName ∉ session.catalog.registry.names)
    (builds : Schema.build command.tableName ((command.get? .columns).getD "") = .ok table) :
    session.process handler line =
      ⟨{ session with catalog := session.catalog.add table },
        .handled .createTable
          (.ok (.tableCreated command.tableName (command.get? .ifNotExists).isSome)),
        [.classified .createTable, .created command.tableName table.columns.length]⟩ := by
  have hunknown : session.catalog.registry.contains command.tableName = false :=
    Bool.eq_false_iff.mpr fun hc => fresh (Catalog.Registry.contains_iff.mp hc)
  have hchange : session.catalog.createTable command =
      ⟨session.catalog.add table,
        .ok (.tableCreated command.tableName (command.get? .ifNotExists).isSome),
        [.created command.tableName table.columns.length]⟩ := by
    rw [Catalog.createTable, ← Command.tableName]
    simp only [hunknown, builds, Bool.false_eq_true, if_false]
  rw [process_of_reads h, carryOut_createTable h, hchange]
  rfl

theorem effect_of_createTable {command : Command} (h : Reads line .createTable command) :
    Effect handler session line (session.process handler line) := by
  rw [process_of_reads h, carryOut_createTable h, Catalog.createTable, ← Command.tableName]
  cases hknown : session.catalog.registry.contains command.tableName with
  | true =>
    have hmem := Catalog.Registry.contains_iff.mp hknown
    cases hclause : (command.get? .ifNotExists).isSome with
    | true => exact .tableExists h hmem hclause
    | false => exact .duplicateTable h hmem hclause
  | false =>
    have hmem : command.tableName ∉ session.catalog.registry.names := fun hm => by
      simp [Catalog.Registry.contains_iff.mpr hm] at hknown
    cases hbuild : Schema.build command.tableName ((command.get? .columns).getD "") with
    | error error => exact .badColumns h hmem hbuild
    | ok table => exact .created h hmem hbuild

theorem word_tableName {command : Command} (h : validate .dropTable line = .ok command) :
    Written.Word command.tableName.toList := by
  obtain ⟨f, tail, -, -, rfl⟩ := (validate_named_eq_ok_iff rfl).mp h
  rw [Command.tableName, get?_named, Option.getD_some, String.toList_ofList]
  exact f.isName

/-- A name is one word and has no comma in it, so a list shows in what is left of the line alone. -/
theorem givesList_eq {name : String} (h : Written.Word name.toList) (remainder : String) :
    Catalog.givesList name remainder = !remainder.toList.all Text.isWhiteSpace := by
  have hwords : Text.words (name.toList ++ ' ' :: remainder.toList) =
      name.toList :: Text.words remainder.toList := by
    rw [Text.words_append_cons rfl, Text.words_of_solid (Text.solid_of_alphanum h.1 h.2),
      List.singleton_append]
  rw [Catalog.givesList, hwords, List.length_cons]
  cases hall : remainder.toList.all Text.isWhiteSpace with
  | false =>
    have hmore : 0 < (Text.words remainder.toList).length := by
      rw [List.length_pos_iff, ne_eq, Text.words_eq_nil_iff, hall]
      exact Bool.false_ne_true
    simp [hmore]
  | true =>
    have hnone : Text.words remainder.toList = [] := Text.words_eq_nil_iff.mpr hall
    have hname : ',' ∉ name.toList := fun hc => absurd (h.2 _ hc) (by decide)
    have hrest : ',' ∉ remainder.toList := fun hc => absurd (List.all_eq_true.mp hall _ hc) (by decide)
    simp [hnone, hname, hrest]

theorem dropTable_eq {command : Command} (h : validate .dropTable line = .ok command) (catalog : Catalog) :
    catalog.dropTable command =
      if command.remainder.toList.all Text.isWhiteSpace then
        match catalog.registry.unregister command.tableName with
        | .error error => catalog.refuse (.registry error)
        | .ok registry =>
          ⟨⟨registry, catalog.store.evict command.tableName⟩, .ok (.tableDropped command.tableName),
            [.dropped command.tableName]⟩
      else catalog.refuse .listNotAllowed := by
  rw [Catalog.dropTable, ← Command.tableName, givesList_eq (word_tableName h)]
  cases command.remainder.toList.all Text.isWhiteSpace with
  | false => rfl
  | true =>
    cases hanswer : catalog.registry.unregister command.tableName with
    | error error =>
      rw [Catalog.Registry.remove_of_error hanswer]
      rfl
    | ok registry =>
      rw [Catalog.Registry.remove_of_ok hanswer]
      rfl

theorem process_dropped {command : Command} (h : Reads line .dropTable command)
    (alone : command.remainder.toList.all Text.isWhiteSpace = true)
    (known : command.tableName ∈ session.catalog.registry.names) :
    session.process handler line =
      ⟨{ session with catalog := ⟨⟨session.catalog.registry.names.erase command.tableName⟩,
          session.catalog.store.evict command.tableName⟩ },
        .handled .dropTable (.ok (.tableDropped command.tableName)),
        [.classified .dropTable, .dropped command.tableName]⟩ := by
  have hdrop : session.catalog.registry.unregister command.tableName =
      .ok ⟨session.catalog.registry.names.erase command.tableName⟩ :=
    Catalog.Registry.unregister_eq_ok_iff.mpr ⟨known, rfl⟩
  rw [process_of_reads h, carryOut_dropTable h, dropTable_eq h.fits, if_pos alone, hdrop]
  rfl

theorem effect_of_dropTable {command : Command} (h : Reads line .dropTable command) :
    Effect handler session line (session.process handler line) := by
  rw [process_of_reads h, carryOut_dropTable h, dropTable_eq h.fits]
  cases halone : command.remainder.toList.all Text.isWhiteSpace with
  | false => exact .listNotAllowed h halone
  | true =>
    cases hdrop : session.catalog.registry.unregister command.tableName with
    | error error => exact .notDropped h halone hdrop
    | ok registry => exact .dropped h halone hdrop

theorem carryOut_of_other {command : Command} (hc : command.kind ≠ .createTable)
    (hd : command.kind ≠ .dropTable) :
    session.carryOut handler command = session.handOn handler command := by
  unfold carryOut
  split
  · next h => exact absurd h hc
  · next h => exact absurd h hd
  · rfl

theorem process_effect (handler : Handler σ) (session : Session σ) (line : String) :
    Effect handler session line (session.process handler line) := by
  cases hopens : classify line with
  | none =>
    simp only [process, hopens]
    exact .unrecognized hopens
  | some kind =>
    cases hfits : validate kind line with
    | error error =>
      simp only [process, hopens, hfits]
      exact .malformed hopens hfits
    | ok command =>
      have hreads : Reads line kind command := ⟨hopens, hfits⟩
      by_cases hc : kind = .createTable
      · subst hc
        exact effect_of_createTable hreads
      by_cases hd : kind = .dropTable
      · subst hd
        exact effect_of_dropTable hreads
      have hkind := hreads.kind_eq
      rw [process_of_reads hreads, carryOut_of_other (hkind ▸ hc) (hkind ▸ hd)]
      exact .handedOn hreads hc hd

end Session

end SchemaShell
