import SchemaShell.Proofs.Console.Lines
import SchemaShell.Proofs.Console.Manner

/-!
# Which lines are processed

Of whatever bytes a console is given, the lines that are commands are put to the session once each and
in their order, up to where the dialogue ends, and nothing else is. A script takes every line for a
command that is not blank, and ends at bytes that are no text; an interactive dialogue passes these over
and answers three words by itself.
-/

namespace SchemaShell.Console

variable {σ : Type}

namespace Manner

/-! ## One line -/

end Manner

example :
    let input : Input := ⟨Text.bytes "DROP TABLE t\nDROP", some ⟨.unreadable ⟨.invalidData, "bad cell"⟩, []⟩⟩
    let dialogue := (Mode.interactive .deferring false "> ").run .unlimited (.start ()) input
    let script := (Mode.script .deferring false).run .unlimited (.start ()) input
    dialogue.result = .ok () ∧ script.result = .error (.unreadable ⟨.invalidData, "bad cell"⟩) :=
  ⟨rfl, rfl⟩

end SchemaShell.Console
