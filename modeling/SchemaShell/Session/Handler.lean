import SchemaShell.Session.Journal

/-!
# Handlers

A session carries out CREATE TABLE and DROP TABLE by itself. Every other command goes to its
handler, which has a state of its own, answers with a report or a refusal, and may leave notes in
the journal.
-/

namespace SchemaShell

/-- An answer of a handler whose state is a `σ`. -/
structure Reply (σ : Type) where
  state : σ
  result : Except Refusal Report
  notes : List (Journal.Level × String)

structure Handler (σ : Type) where
  reply : σ → Command → Reply σ

namespace Handler

/-- The fields of a command with their texts, all quoted. -/
def describeFields (command : Command) : String :=
  let pairs := command.captures.map fun c =>
    "(" ++ Text.quoted c.1.label ++ ", " ++ Text.quoted c.2 ++ ")"
  "[" ++ ", ".intercalate pairs ++ "]"

/-- Accepts every command and leaves the work to others. -/
def deferring : Handler Unit where
  reply _ command :=
    { state := ()
      result := .ok (.deferred command.kind)
      notes :=
        [(.info, command.kind.name ++ " accepted without a handler: " ++ describeFields command)] }

end Handler

end SchemaShell
