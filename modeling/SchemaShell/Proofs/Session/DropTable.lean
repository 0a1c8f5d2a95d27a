import SchemaShell.Proofs.Session.Effect

/-!
# DROP TABLE in a session

DROP TABLE takes one name. Anything behind the name but blanks makes the line a list, whatever the
tables are. Only then it matters whether there are tables, and whether the name is one of them.
-/

namespace SchemaShell

open Command Written Pattern

variable {σ : Type} {handler : Handler σ} {session : Session σ} {line : String} {command : Command}

/-! ## What is left of the line -/

section

variable {f : Named .dropTable} {tail : List Char}

theorem Command.all_isWhiteSpace_remainder_iff (htext : normalize line = f.text ++ tail) :
    (f.command .table tail).remainder.toList.all Text.isWhiteSpace = true ↔
      (f.command .table tail).remainder = "" := by
  have hend : normalize line = (f.text ++ tail.takeWhile Text.isBlank) ++ tail.dropWhile Text.isBlank := by
    rw [List.append_assoc, List.takeWhile_append_dropWhile, htext]
  constructor
  · intro hall
    have hwhite : Text.White (tail.dropWhile Text.isBlank) := by
      simpa [Named.command, Text.White] using hall
    simp [Named.command, eq_nil_of_white_end hend hwhite]
  · intro hempty
    simp [hempty]

theorem Command.remainder_eq_empty_iff :
    (f.command .table tail).remainder = "" ↔ tail.all Text.isBlank = true := by
  rw [← String.toList_inj, Named.command, String.toList_ofList, List.all_eq_true,
    ← List.dropWhile_eq_nil_iff]
  exact Iff.rfl

end

namespace Session

/-! ## The answer -/

/-- What is answered to a name, given the names that are known. -/
def dropAnswer (names : List String) (name : String) : Except Refusal Report :=
  if names = [] then .error (.registry .empty)
  else if name ∈ names then .ok (.tableDropped name)
  else .error (.registry (.notFound name))

theorem dropAnswer_ne_listNotAllowed (names : List String) (name : String) :
    dropAnswer names name ≠ .error .listNotAllowed := by
  unfold dropAnswer
  split
  · simp
  · split <;> simp

theorem outcome_dropTable (h : Reads line .dropTable command) :
    (session.process handler line).outcome =
      .handled .dropTable
        (if command.remainder.toList.all Text.isWhiteSpace then
          dropAnswer session.catalog.registry.names command.tableName
        else .error .listNotAllowed) := by
  rw [process_of_reads h, carryOut_dropTable h, dropTable_eq h.fits, Catalog.Registry.unregister_eq]
  unfold dropAnswer
  cases command.remainder.toList.all Text.isWhiteSpace with
  | false => rfl
  | true =>
    by_cases hnone : session.catalog.registry.names = []
    · simp only [hnone, if_true]
      rfl
    by_cases hknown : command.tableName ∈ session.catalog.registry.names
    · simp only [hnone, hknown, if_true, if_false]
      rfl
    · simp only [hnone, hknown, if_true, if_false]
      rfl

theorem outcome_of_named {f : Named .dropTable} {tail : List Char}
    (htext : normalize line = f.text ++ tail) (hapart : StartsApart tail) :
    (session.process handler line).outcome =
      .handled .dropTable
        (if tail.all Text.isBlank = false then .error .listNotAllowed
        else dropAnswer session.catalog.registry.names (String.ofList f.name)) := by
  have hfits : validate .dropTable line = .ok (f.command .table tail) := validate_of_named rfl htext hapart
  have hname : (f.command .table tail).tableName = String.ofList f.name := by
    rw [tableName, get?_named, Option.getD_some]
  have halone : (f.command .table tail).remainder.toList.all Text.isWhiteSpace = true ↔
      ¬tail.all Text.isBlank = false := by
    rw [all_isWhiteSpace_remainder_iff htext, remainder_eq_empty_iff, Bool.not_eq_false]
  rw [outcome_dropTable ⟨classify_of_fits hfits, hfits⟩, hname, if_congr halone rfl rfl, ite_not]

/-- DROP TABLE takes exactly one name. Without a name the line is malformed. Otherwise the name is the
whole word behind the keywords, and the line gives a list just when something other than blanks follows
it. The list is refused first. Then it is refused that there are no tables, and then that the name is
none of them. -/
theorem dropTable_takes_one_name (handler : Handler σ) (session : Session σ) {line : String}
    (hopens : classify line = some .dropTable) :
    let outcome := (session.process handler line).outcome
    let names := session.catalog.registry.names
    ((¬ ∃ f : Named .dropTable, f.text <+: normalize line) → outcome = .malformed ⟨.dropTable⟩) ∧
    ((∃ f : Named .dropTable, f.text <+: normalize line) →
      ∃ (f : Named .dropTable) (tail : List Char), normalize line = f.text ++ tail ∧ StartsApart tail) ∧
    (∀ (f : Named .dropTable) (tail : List Char), normalize line = f.text ++ tail → StartsApart tail →
      let name := String.ofList f.name
      outcome = .handled .dropTable
        (if tail.all Text.isBlank = false then .error .listNotAllowed
        else if names = [] then .error (.registry .empty)
        else if name ∈ names then .ok (.tableDropped name)
        else .error (.registry (.notFound name)))) ∧
    ∀ command, validate .dropTable line = .ok command →
      (Catalog.givesList command.tableName command.remainder = true ↔ command.remainder ≠ "") ∧
      (outcome = .handled .dropTable (.error .listNotAllowed) ↔ command.remainder ≠ "") := by
  intro outcome names
  refine ⟨?_, ?_, ?_, ?_⟩
  · intro hnone
    have hfails : validate .dropTable line = .error ⟨.dropTable⟩ :=
      (validate_named_eq_error_iff rfl).mpr hnone
    simp only [outcome, process, hopens, hfails]
  · rintro ⟨f, hf⟩
    exact Named.exists_whole hf
  · intro f tail htext hapart
    exact outcome_of_named htext hapart
  · intro command hfits
    obtain ⟨f, tail, htext, -, rfl⟩ := (validate_named_eq_ok_iff rfl).mp hfits
    have hwhite := all_isWhiteSpace_remainder_iff htext
    have houtcome : outcome = _ := outcome_dropTable ⟨hopens, hfits⟩
    rw [houtcome, givesList_eq (word_tableName hfits), ne_eq, ← hwhite]
    cases (f.command .table tail).remainder.toList.all Text.isWhiteSpace with
    | false => simp
    | true => simp [dropAnswer_ne_listNotAllowed]

theorem dropTable_takes_one_name_of_two :
    let session := (start ()).processAll .deferring ["CREATE TABLE t((a,number,1,0))"]
    classify "drop \u000bTable t;" = some .dropTable ∧
      (session.process .deferring "drop \u000bTable t;").outcome = .handled .dropTable (.ok (.tableDropped "t")) ∧
      classify "DROP TABLE t\u00a0u" = some .dropTable ∧
      (session.process .deferring "DROP TABLE t\u00a0u").outcome =
        .handled .dropTable (.error .listNotAllowed) := by
  intro session
  let f : Named .dropTable :=
    { opening := "drop \u000bTable".toList
      isOpening := ⟨"drop".toList, [' ', '\u000b'], "Table".toList, rfl, by simp,
        List.all_eq_true.mp rfl, rfl, rfl⟩
      beforeName := ⟨[' '], List.all_eq_true.mp rfl⟩
      beforeName_ne_nil := by simp
      name := ['t']
      isName := ⟨by simp, List.all_eq_true.mp rfl⟩ }
  let g : Named .dropTable := { f with
    opening := "DROP TABLE".toList
    isOpening := ⟨"DROP".toList, [' '], "TABLE".toList, rfl, by simp, List.all_eq_true.mp rfl, rfl, rfl⟩ }
  have hone : classify "drop \u000bTable t;" = some .dropTable := rfl
  have htwo : classify "DROP TABLE t\u00a0u" = some .dropTable := rfl
  have hfirst := (dropTable_takes_one_name .deferring session hone).2.2.1 f [] rfl (by simp [StartsApart])
  have hsecond := (dropTable_takes_one_name .deferring session htwo).2.2.1 g ['\u00a0', 'u'] rfl
    (by simp [StartsApart])
  exact ⟨hone, hfirst.trans rfl, htwo, hsecond.trans rfl⟩

end Session

end SchemaShell
