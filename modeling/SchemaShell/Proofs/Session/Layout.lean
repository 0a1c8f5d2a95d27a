import SchemaShell.Proofs.Command.Layout
import SchemaShell.Proofs.Command.WholeWords
import SchemaShell.Proofs.Schema.ColumnBlock
import SchemaShell.Proofs.Session.Effect

/-!
# The layout of a line does not matter

A line that is laid out in another way is answered with the same outcome, and the session is the same
after it. The blanks in a command are seen by nobody: names and values have none, and the columns of
a table are cut into fields, to which no blank belongs.
-/

namespace SchemaShell

open Command Text

namespace Schema

variable {text other : List Char}

theorem continues_respaced (h : Respaced text other) : continues text = continues other := by
  cases h with
  | nil => rfl
  | keep c rest => rfl
  | swap hgap hspace hg hs rest =>
    obtain ⟨c, gap, rfl⟩ := List.exists_cons_of_ne_nil hgap
    obtain ⟨d, space, rfl⟩ := List.exists_cons_of_ne_nil hspace
    have hc : c.isAlphanum = false := not_isAlphanum_of_isBlank (hg c (by simp))
    have hd : d.isAlphanum = false := not_isAlphanum_of_isBlank (hs d (by simp))
    simp [continues, hc, hd]

theorem fieldsOf_respaced (h : Respaced text other) : fieldsOf text = fieldsOf other := by
  induction h with
  | nil => rfl
  | keep c rest ih => rw [fieldsOf, fieldsOf, continues_respaced rest, ih]
  | swap hgap hspace hg hs rest ih =>
    rw [fieldsOf_separators fun c hc => isSeparator_of_isBlank (hg c hc),
      fieldsOf_separators fun c hc => isSeparator_of_isBlank (hs c hc), ih]

theorem build_respaced {name block second : String} (h : Respaced block.toList second.toList) :
    build name block = build name second := by
  have hfields : fields block = fields second := by
    rw [fields_eq, fields_eq, fieldsOf_respaced h]
  rw [build, build, hfields]

end Schema

variable {kind : Kind} {line : String} {command second : Command}

theorem Command.Alike.isSome_get? (h : command.Alike Respaced second) (field : Field) :
    (command.get? field).isSome = (second.get? field).isSome := by
  have hrel := h.get? congruent_respaced field
  generalize command.get? field = text at hrel
  generalize second.get? field = other at hrel
  cases hrel <;> rfl

theorem Command.Alike.getD_get? (h : command.Alike Respaced second) (field : Field) :
    Respaced ((command.get? field).getD "").toList ((second.get? field).getD "").toList := by
  have hrel := h.get? congruent_respaced field
  generalize command.get? field = text at hrel
  generalize second.get? field = other at hrel
  cases hrel with
  | none => exact .nil
  | some htext => exact htext

theorem tableName_eq_of_alike (hfits : validate kind line = .ok command)
    (h : command.Alike Respaced second) : command.tableName = second.tableName := by
  have hsolid : ∀ c ∈ command.tableName.toList, isBlank c = false := by
    rw [tableName]
    cases htable : command.get? .table with
    | none => simp
    | some name => exact fun c hc => isBlank_of_isAlphanum (isAlphanum_of_get? hfits rfl htable c hc)
  exact (String.toList_inj.mp ((h.getD_get? .table).eq_of_solid hsolid)).symm

namespace Session

theorem createTable_eq_of_alike (catalog : Catalog) (hfits : validate kind line = .ok command)
    (h : command.Alike Respaced second) : catalog.createTable command = catalog.createTable second := by
  have hname := tableName_eq_of_alike hfits h
  rw [tableName, tableName] at hname
  simp only [Catalog.createTable, hname, h.isSome_get? .ifNotExists,
    Schema.build_respaced (h.getD_get? .columns)]

theorem uniform_isWhiteSpace : Respaced.Uniform isWhiteSpace :=
  ⟨true, fun _ hc => isWhiteSpace_of_isBlank hc⟩

theorem dropTable_eq_of_alike (catalog : Catalog) (hfits : validate .dropTable line = .ok command)
    (h : command.Alike Respaced second) : catalog.dropTable command = catalog.dropTable second := by
  have hword := word_tableName hfits
  have hname := tableName_eq_of_alike hfits h
  rw [tableName] at hword
  rw [tableName, tableName] at hname
  rw [Catalog.dropTable, Catalog.dropTable, ← hname, givesList_eq hword,
    givesList_eq hword, h.remainder.all_eq uniform_isWhiteSpace]

theorem carryOut_eq_of_alike (session : Session Unit) (hfits : validate kind line = .ok command)
    (h : command.Alike Respaced second) :
    (session.carryOut .deferring command).session = (session.carryOut .deferring second).session ∧
      (session.carryOut .deferring command).result = (session.carryOut .deferring second).result := by
  by_cases hcreate : command.kind = .createTable
  · have hkind := h.kind.symm.trans hcreate
    simp only [carryOut, hcreate, hkind, createTable_eq_of_alike _ hfits h, and_self]
  by_cases hdrop : command.kind = .dropTable
  · have hkind := h.kind.symm.trans hdrop
    have hkindOf : command.kind = kind := by
      obtain ⟨r, -, rfl⟩ := validate_eq_ok_iff.mp hfits
      rfl
    rw [← hkindOf, hdrop] at hfits
    simp only [carryOut, hdrop, hkind, dropTable_eq_of_alike _ hfits h, and_self]
  rw [carryOut_of_other hcreate hdrop, carryOut_of_other (h.kind ▸ hcreate) (h.kind ▸ hdrop)]
  refine ⟨rfl, ?_⟩
  change Except.ok (Report.deferred command.kind) = Except.ok (Report.deferred second.kind)
  rw [h.kind]

/-- Two layouts of a line have the same outcome and lead to the same session, and for every kind they
are commands with the same texts up to blanks, or no commands. -/
theorem layout_does_not_matter (session : Session Unit) {line other : String}
    (hopen : (trim line.toList).getLast? ≠ some ';') (h : Relaid line other) :
    (session.process .deferring line).outcome = (session.process .deferring other).outcome ∧
      (session.process .deferring line).session = (session.process .deferring other).session ∧
      ∀ kind, (validate kind line = .error ⟨kind⟩ ∧ validate kind other = .error ⟨kind⟩) ∨
        ∃ command second, validate kind line = .ok command ∧ validate kind other = .ok second ∧
          command.Alike Respaced second := by
  have htexts := h.normalize hopen
  have hopens : classify line = classify other :=
    classify_congr (fun kind => Pattern.respects_of_layoutFree (layoutFree_opening kind)) htexts
  have hfits := fun kind =>
    validate_alike congruent_respaced (Pattern.respects_of_layoutFree (layoutFree_shape kind)) htexts
  suffices hsame : (session.process .deferring line).outcome = (session.process .deferring other).outcome ∧
      (session.process .deferring line).session = (session.process .deferring other).session from
    ⟨hsame.1, hsame.2, hfits⟩
  cases hkind : classify line with
  | none => simp only [process, hkind, ← hopens, and_self]
  | some kind =>
    rcases hfits kind with ⟨hline, hother⟩ | ⟨command, second, hline, hother, halike⟩
    · simp only [process, hkind, ← hopens, hline, hother, and_self]
    · obtain ⟨hsession, hresult⟩ := carryOut_eq_of_alike session hline halike
      simp only [process, hkind, ← hopens, hline, hother, hsession, hresult, and_self]

theorem layout_does_not_matter_to_create :
    (trim "CREATE TABLE t ((a, number, 1, 0))".toList).getLast? ≠ some ';' ∧
      Relaid "CREATE TABLE t ((a, number, 1, 0))"
        "\u00a0CREATE \nTABLE t ((a, number, 1, 0)) ; " ∧
      ((start ()).process .deferring "CREATE TABLE t ((a, number, 1, 0))").outcome =
        ((start ()).process .deferring "\u00a0CREATE \nTABLE t ((a, number, 1, 0)) ; ").outcome ∧
      ((start ()).process .deferring "CREATE TABLE t ((a, number, 1, 0))").session =
        ((start ()).process .deferring "\u00a0CREATE \nTABLE t ((a, number, 1, 0)) ; ").session ∧
      ∀ kind, (validate kind "CREATE TABLE t ((a, number, 1, 0))" = .error ⟨kind⟩ ∧
          validate kind "\u00a0CREATE \nTABLE t ((a, number, 1, 0)) ; " = .error ⟨kind⟩) ∨
        ∃ command second, validate kind "CREATE TABLE t ((a, number, 1, 0))" = .ok command ∧
          validate kind "\u00a0CREATE \nTABLE t ((a, number, 1, 0)) ; " = .ok second ∧
          command.Alike Respaced second := by
  have hgap : Respaced ([' '] ++ "TABLE t ((a, number, 1, 0))".toList)
      ([' ', '\n'] ++ "TABLE t ((a, number, 1, 0))".toList) :=
    .swap (List.cons_ne_nil _ _) (List.cons_ne_nil _ _) (List.all_eq_true.mp rfl)
      (List.all_eq_true.mp rfl) (.refl _)
  have hwhite : White [' '] := List.all_eq_true.mp rfl
  have hfront : White ['\u00a0'] := List.all_eq_true.mp rfl
  have hspelled : "\u00a0CREATE \nTABLE t ((a, number, 1, 0)) ; ".toList =
      ['\u00a0'] ++ ("CREATE \nTABLE t ((a, number, 1, 0))".toList ++ ([' '] ++ ';' :: [' '])) := rfl
  have hrelaid : Relaid "CREATE TABLE t ((a, number, 1, 0))"
      "\u00a0CREATE \nTABLE t ((a, number, 1, 0)) ; " :=
    .closed ((Respaced.refl "CREATE".toList).append hgap) hfront hwhite hwhite hspelled
  have hlast : (trim "CREATE TABLE t ((a, number, 1, 0))".toList).getLast? = some ')' := rfl
  have hopen : (trim "CREATE TABLE t ((a, number, 1, 0))".toList).getLast? ≠ some ';' := by
    rw [hlast]
    decide
  exact ⟨hopen, hrelaid, layout_does_not_matter (start ()) hopen hrelaid⟩

end Session

end SchemaShell
