import SchemaShell.Proofs.Command.Clause

/-!
# Commands of one name

DROP TABLE, DROP INDEX and DISPLAY TABLE are their words and one name. A line is such a command just
when a name stands behind the words, whatever comes after it. The name is then the whole word, and
what is left of the line begins behind the blanks that follow the name.
-/

namespace SchemaShell.Command

open Pattern Shape Written

/-- The field of the name, for the kinds that have one name and nothing else. -/
def Kind.nameField? : Kind → Option Field
  | dropTable | displayTable => some .table
  | dropIndex => some .index
  | createTable | createIndex | insertInto | deleteFrom | select | update => none

/-- The words of a kind with a name behind them. -/
structure Written.Named (kind : Kind) where
  opening : List Char
  isOpening : Phrase kind.words opening
  beforeName : Gap
  beforeName_ne_nil : beforeName.val ≠ []
  name : List Char
  isName : Word name

namespace Written.Named

variable {kind : Kind}

def text (f : Named kind) : List Char :=
  f.opening ++ (f.beforeName ++ f.name)

def command (f : Named kind) (field : Field) (tail : List Char) : Command where
  kind := kind
  captures := [(field, String.ofList f.name)]
  matched := String.ofList (f.text ++ tail.takeWhile Text.isBlank)
  remainder := String.ofList (tail.dropWhile Text.isBlank)

theorem exists_whole {text : List Char} {f : Named kind} (h : f.text <+: text) :
    ∃ whole : Named kind, ∃ tail, text = whole.text ++ tail ∧ StartsApart tail := by
  obtain ⟨rest, rfl⟩ := h
  let name : Name := ⟨f.name, f.isName⟩
  obtain ⟨whole, tail, hsplit, hapart, -⟩ := name.exists_whole rest
  refine ⟨{ f with name := whole, isName := whole.2 }, tail, ?_, hapart⟩
  simp only [text, List.append_assoc]
  rw [← hsplit]

end Written.Named

variable {kind : Kind} {field : Field} {line : String} {tail : List Char}

theorem body_of_nameField? (h : kind.nameField? = some field) :
    kind.body = inOrder ([blanks, word field] ++ [gap]) := by
  cases kind <;> cases h <;> rfl

theorem fields_of_nameField? (h : kind.nameField? = some field) : kind.fields = [field] := by
  cases kind <;> cases h <;> rfl

/-! ## From the form to the command -/

theorem validate_of_named (hfield : kind.nameField? = some field) {f : Named kind}
    (htext : normalize line = f.text ++ tail) (hapart : StartsApart tail) :
    validate kind line = .ok (f.command field tail) := by
  let opening : Opening kind := ⟨f.opening, f.isOpening⟩
  let before : Space := ⟨f.beforeName, f.beforeName_ne_nil, f.beforeName.2⟩
  have hderives : (inOrder [blanks, word field]).Derives (before ++ f.name) [(field, f.name)] :=
    plain_blanks.seq_iff_exists.mpr ⟨before, f.name, rfl, derives_word.mpr ⟨f.isName, rfl⟩⟩
  have hline : normalize line = opening ++ (before ++ f.name) ++ tail := htext
  rw [validate_of_endsInWord (body_of_nameField? hfield) (fun _ => rfl) hderives hline hapart, ofReading,
    fields_of_nameField? hfield]
  simp [Named.command, Named.text, fieldText?, opening, before]

theorem get?_named (f : Named kind) (field : Field) (tail : List Char) :
    (f.command field tail).get? field = some (String.ofList f.name) := by
  have hlookup : (f.command field tail).captures.lookup field = some (String.ofList f.name) := by
    simp [Named.command]
  rw [get?_eq hlookup, if_neg f.isName.1]

/-! ## From the command to the form -/

theorem exists_named_of_fits (hfield : kind.nameField? = some field) {command : Command}
    (h : validate kind line = .ok command) : ∃ f : Named kind, f.text <+: normalize line := by
  obtain ⟨opening, r, htext, hfront⟩ := exists_front_of_fits (body_of_nameField? hfield) h
  obtain ⟨before, name, htaken, hname⟩ := plain_blanks.seq_iff_exists.mp hfront
  obtain ⟨hword, -⟩ := derives_word.mp hname
  refine ⟨⟨opening, opening.2, ⟨before, before.2.2⟩, before.2.1, name, hword⟩, r.rest, ?_⟩
  rw [htext, htaken]
  simp [Named.text]

theorem validate_named_eq_ok_iff (hfield : kind.nameField? = some field) {command : Command} :
    validate kind line = .ok command ↔
      ∃ (f : Named kind) (tail : List Char), normalize line = f.text ++ tail ∧ StartsApart tail ∧
        command = f.command field tail :=
  validate_eq_ok_iff_of_forms (fun _ => exists_named_of_fits hfield) (fun _ => Named.exists_whole)
    (fun _ _ => validate_of_named hfield)

theorem validate_named_eq_error_iff (hfield : kind.nameField? = some field) :
    validate kind line = .error ⟨kind⟩ ↔ ¬ ∃ f : Named kind, f.text <+: normalize line := by
  constructor
  · rintro herror ⟨f, hf⟩
    obtain ⟨whole, tail, htext, hapart⟩ := Named.exists_whole hf
    rw [validate_of_named hfield htext hapart] at herror
    cases herror
  · intro hnone
    cases hfits : validate kind line with
    | error error => rw [(validate_eq_error_iff.mp hfits).2]
    | ok command => exact absurd (exists_named_of_fits hfield hfits) hnone

end SchemaShell.Command
