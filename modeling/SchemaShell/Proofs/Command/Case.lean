import SchemaShell.Proofs.Command.Alike
import SchemaShell.Proofs.Pattern.Case
import SchemaShell.Proofs.Schema.Case
import SchemaShell.Proofs.Session.CreateTable

/-!
# The letter case of a line does not matter

Lines that differ in the case of ASCII letters only are of the same kind and have the same shapes, and
their commands differ in letter case only. Outside ASCII nothing is folded.
-/

namespace SchemaShell.Command

open Pattern Text

variable {line other : String}

theorem caseFree_opening (kind : Kind) : kind.opening.caseFree = true := by
  cases kind <;> decide

theorem caseFree_shape (kind : Kind) : kind.shape.caseFree = true := by
  cases kind <;> decide

theorem asciiOnly_opening (kind : Kind) : kind.opening.asciiOnly = true := by
  cases kind <;> decide

theorem asciiOnly_shape (kind : Kind) : kind.shape.asciiOnly = true := by
  cases kind <;> decide

theorem withoutSemicolon_recased {text more : List Char} (h : Recased text more) :
    Recased (withoutSemicolon text) (withoutSemicolon more) := by
  have hlast : text.getLast? = some ';' ↔ more.getLast? = some ';' := h.getLast?_eq_some_iff rfl
  simp only [withoutSemicolon, hlast]
  split
  · exact h.dropLast
  · exact h

theorem normalize_recased (h : Recased line.toList other.toList) :
    Recased (normalize line) (normalize other) :=
  Recased.trimEnd (withoutSemicolon_recased h.trim)

theorem exists_columns {command : Command} (h : validate .createTable line = .ok command) :
    ∃ block, command.get? .columns = some block := by
  obtain ⟨f, rest, -, -, rfl⟩ := validate_createTable_eq_ok_iff.mp h
  obtain ⟨rs, -, hcolumns⟩ := get?_columns_records f rest
  exact ⟨_, hcolumns⟩

/-- Two lines that differ in letter case only are of the same kind. Of every kind they are commands
with the same texts up to letter case, or no commands, and as CREATE TABLE they describe columns of the
same types and sizes or are refused for the same reason. No line is read with a character outside ASCII,
so there is no other folding. -/
theorem letter_case_does_not_matter :
    (∀ line other : String, Recased line.toList other.toList →
      classify line = classify other ∧
      (∀ kind, (validate kind line = .error ⟨kind⟩ ∧ validate kind other = .error ⟨kind⟩) ∨
        ∃ command second, validate kind line = .ok command ∧ validate kind other = .ok second ∧
          command.Alike Recased second) ∧
      ∀ command second, validate .createTable line = .ok command →
        validate .createTable other = .ok second →
        ∃ block twin, command.get? .columns = some block ∧ second.get? .columns = some twin ∧
          ∀ name renamed, Schema.BuildsAlike
            (fun table copy => List.Forall₂ Schema.Column.Alike table.columns copy.columns)
            (Schema.build name block) (Schema.build renamed twin)) ∧
    ∀ (kind : Kind) (text : List Char) (r : Reading Field),
      kind.opening.read? text = some r ∨ kind.shape.read? text = some r → Ascii r.taken := by
  refine ⟨fun line other h => ?_, ?_⟩
  · have htexts := normalize_recased h
    have hfits := fun kind =>
      validate_alike congruent_recased (respects_of_caseFree (caseFree_shape kind)) htexts
    refine ⟨classify_congr (fun kind => respects_of_caseFree (caseFree_opening kind)) htexts, hfits, ?_⟩
    intro command second hline hother
    rcases hfits .createTable with ⟨herror, -⟩ | ⟨command', second', hline', hother', halike⟩
    · cases hline.symm.trans herror
    · obtain rfl : command' = command := Except.ok.inj (hline'.symm.trans hline)
      obtain rfl : second' = second := Except.ok.inj (hother'.symm.trans hother)
      obtain ⟨block, hblock⟩ := exists_columns hline
      obtain ⟨twin, htwin⟩ := exists_columns hother
      have hcolumns := halike.get? congruent_recased .columns
      rw [hblock, htwin, Option.rel_some_some] at hcolumns
      exact ⟨block, twin, hblock, htwin, fun name renamed => Schema.build_recased name renamed hcolumns⟩
  · rintro kind text r (hopening | hshape)
    · exact ascii_of_read? (asciiOnly_opening kind) hopening
    · exact ascii_of_read? (asciiOnly_shape kind) hshape

theorem letter_case_does_not_matter_to_create :
    Recased "create table t((a,number,1,x));".toList "CREATE Table T((A,NumbeR,1,X));".toList ∧
      classify "create table t((a,number,1,x));" = classify "CREATE Table T((A,NumbeR,1,X));" ∧
      Schema.BuildsAlike
        (fun table copy => List.Forall₂ Schema.Column.Alike table.columns copy.columns)
        (Schema.build "t" "(a,number,1,x)") (Schema.build "T" "(A,NumbeR,1,X)") := by
  have hsame : Recased "create table t((a,number,1,x));".toList "CREATE Table T((A,NumbeR,1,X));".toList := by
    decide +kernel
  obtain ⟨hkind, -, hbuild⟩ := letter_case_does_not_matter.1 _ _ hsame
  let command : Command :=
    ⟨.createTable, [(.table, "t"), (.ifNotExists, ""), (.columns, "(a,number,1,x)")],
      "create table t((a,number,1,x))", ""⟩
  let second : Command :=
    ⟨.createTable, [(.table, "T"), (.ifNotExists, ""), (.columns, "(A,NumbeR,1,X)")],
      "CREATE Table T((A,NumbeR,1,X))", ""⟩
  have hline : validate .createTable "create table t((a,number,1,x));" = .ok command := rfl
  have hother : validate .createTable "CREATE Table T((A,NumbeR,1,X));" = .ok second := rfl
  obtain ⟨block, twin, hblock, htwin, hcolumns⟩ := hbuild command second hline hother
  have hkept : command.get? .columns = some "(a,number,1,x)" := rfl
  have hcopied : second.get? .columns = some "(A,NumbeR,1,X)" := rfl
  obtain rfl := Option.some_inj.mp (hkept.symm.trans hblock)
  obtain rfl := Option.some_inj.mp (hcopied.symm.trans htwin)
  exact ⟨hsame, hkind, hcolumns "t" "T"⟩

end SchemaShell.Command
