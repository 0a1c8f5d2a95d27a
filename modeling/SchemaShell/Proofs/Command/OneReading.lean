import SchemaShell.Proofs.Command.CreateIndex
import SchemaShell.Proofs.Command.Rows

/-!
# Commands with one reading

The forms of CREATE INDEX, DELETE FROM and UPDATE at the front of a line say the same, whatever words are
taken for names. Only the value at the end of the last two may be cut short, and it is read to its end.
-/

namespace SchemaShell.Command

open Pattern Written

variable {kind : Kind} {line : String} {Form : Type} {text : Form → List Char}
  {command : Form → List Char → Command} {ends : List Char → Prop} {agrees : Form → Form → Prop}

/-- A line is a command of the kind just when a form stands at its front. The command is that of a form
which ends where it has to, and every form there agrees with this one. -/
structure OneReading (kind : Kind) (text : Form → List Char) (command : Form → List Char → Command)
    (ends : List Char → Prop) (agrees : Form → Form → Prop) (line : String) : Prop where
  fits_iff : (∃ read, validate kind line = .ok read) ↔ ∃ f, text f <+: normalize line
  agree : ∀ read, validate kind line = .ok read →
    ∃ whole tail, normalize line = text whole ++ tail ∧ ends tail ∧ read = command whole tail ∧
      ∀ f, text f <+: normalize line → agrees f whole

/-- Forms have one reading if each agrees with one that ends where it has to, and if the command tells what
they agree in. -/
theorem oneReading
    (hfits : ∀ read, validate kind line = .ok read ↔
      ∃ f tail, normalize line = text f ++ tail ∧ ends tail ∧ read = command f tail)
    (hwhole : ∀ f, text f <+: normalize line →
      ∃ whole tail, normalize line = text whole ++ tail ∧ ends tail ∧ agrees f whole)
    (hsame : ∀ f g other tail more, agrees f g → command g tail = command other more → agrees f other) :
    OneReading kind text command ends agrees line := by
  refine ⟨⟨?_, ?_⟩, ?_⟩
  · rintro ⟨read, h⟩
    obtain ⟨f, tail, htext, -⟩ := (hfits read).mp h
    exact ⟨f, tail, htext.symm⟩
  · rintro ⟨f, hf⟩
    obtain ⟨whole, tail, htext, hends, -⟩ := hwhole f hf
    exact ⟨_, (hfits _).mpr ⟨whole, tail, htext, hends, rfl⟩⟩
  · intro read h
    obtain ⟨whole, tail, htext, hends, rfl⟩ := (hfits read).mp h
    refine ⟨whole, tail, htext, hends, rfl, fun f hf => ?_⟩
    obtain ⟨other, more, hother, hmore, hagrees⟩ := hwhole f hf
    have hread := (hfits _).mpr ⟨other, more, hother, hmore, rfl⟩
    exact hsame f other whole more tail hagrees (Except.ok.inj (hread.symm.trans h))

theorem oneReading_createIndex (line : String) :
    OneReading .createIndex CreateIndex.text CreateIndex.command (fun _ => True)
      (fun f whole => f.parts = whole.parts) line := by
  refine oneReading (fun read => ?_) ?_ ?_
  · simpa using validate_createIndex_eq_ok_iff
  · rintro f ⟨rest, htext⟩
    exact ⟨f, rest, htext.symm, trivial, rfl⟩
  · intro f g other rest more hparts hcommand
    exact hparts.trans (CreateIndex.parts_eq_of_command hcommand)

theorem oneReading_deleteFrom (line : String) :
    OneReading .deleteFrom DeleteFrom.text DeleteFrom.command StartsApart DeleteFrom.CutOf line :=
  oneReading (fun _ => validate_deleteFrom_eq_ok_iff) (fun _ => DeleteFrom.exists_whole)
    (fun _ _ _ _ _ => DeleteFrom.CutOf.of_command)

theorem oneReading_update (line : String) :
    OneReading .update Update.text Update.command StartsApart Update.CutOf line :=
  oneReading (fun _ => validate_update_eq_ok_iff) (fun _ => Update.exists_whole)
    (fun _ _ _ _ _ => Update.CutOf.of_command)

/-- CREATE INDEX, DELETE FROM and UPDATE are read from their forms and from nothing else. All forms of a
CREATE INDEX at the front of a line have the same words, IF NOT EXISTS among them or not. Those of the
other two have the same words up to the last, and the command takes the last one to its end. -/
theorem forms_have_one_reading (line : String) :
    OneReading .createIndex CreateIndex.text CreateIndex.command (fun _ => True)
      (fun f whole => f.parts = whole.parts) line ∧
    OneReading .deleteFrom DeleteFrom.text DeleteFrom.command StartsApart DeleteFrom.CutOf line ∧
    OneReading .update Update.text Update.command StartsApart Update.CutOf line :=
  ⟨oneReading_createIndex line, oneReading_deleteFrom line, oneReading_update line⟩

/-- Any word of the grammar may be a name. -/
example :
    (validate .createIndex "create index IF on ON (NOT)").toOption.map captures =
      some [(.ifNotExists, ""), (.index, "IF"), (.table, "ON"), (.column, "NOT")] ∧
    (validate .update "update SET set SET = WHERE where WHERE = ab").toOption.map captures =
      some [(.table, "SET"), (.setColumn, "SET"), (.setValue, "WHERE"), (.whereColumn, "WHERE"),
        (.whereValue, "ab")] := ⟨rfl, rfl⟩

end SchemaShell.Command
