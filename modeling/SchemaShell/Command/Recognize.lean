import SchemaShell.Command.Basic
import SchemaShell.Text.WhiteSpace

/-!
# Recognising a line

A line is first stripped of white space and of one semicolon at its end. `classify` takes it for
the first kind whose opening it has; `validate` reads it against the whole shape of a kind.
-/

namespace SchemaShell.Command

def withoutSemicolon (text : List Char) : List Char :=
  if text.getLast? = some ';' then text.dropLast else text

/-- The text of a line that counts. -/
def normalize (line : String) : List Char :=
  Text.trimEnd (withoutSemicolon (Text.trim line.toList))

@[simp] theorem withoutSemicolon_concat (text : List Char) (c : Char) :
    withoutSemicolon (text ++ [c]) = if c = ';' then text else text ++ [c] := by
  simp [withoutSemicolon]

/-- The kind of command that a line opens. -/
def classify (line : String) : Option Kind :=
  Kind.all.find? fun kind => (kind.opening.read? (normalize line)).isSome

def validate (kind : Kind) (line : String) : Except FormatError Command :=
  match kind.shape.read? (normalize line) with
  | none => .error ⟨kind⟩
  | some r => .ok (ofReading kind r)

theorem validate_eq_error_iff {kind : Kind} {line : String} {error : FormatError} :
    validate kind line = .error error ↔
      kind.shape.read? (normalize line) = none ∧ error = ⟨kind⟩ := by
  cases h : kind.shape.read? (normalize line) <;> simp [validate, h, eq_comm]

theorem validate_eq_ok_iff {kind : Kind} {line : String} {command : Command} :
    validate kind line = .ok command ↔
      ∃ r, kind.shape.read? (normalize line) = some r ∧ ofReading kind r = command := by
  cases h : kind.shape.read? (normalize line) <;> simp [validate, h]

end SchemaShell.Command
