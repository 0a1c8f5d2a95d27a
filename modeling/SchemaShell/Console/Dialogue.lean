import SchemaShell.Console.Input
import SchemaShell.Console.Render
import SchemaShell.Console.Sink
import SchemaShell.Text.Bytes

/-!
# Dialogues

A dialogue reads its input to the end, or to a line that stops it, and writes what each line calls
for. A mode says how: a script is read without prompts and breaks off at a line that is no text; an
interactive dialogue prompts for each line, goes on after a line that cannot be used, and knows
three words of its own. `converse` runs either of them, and stops when its output does.
-/

namespace SchemaShell.Console

open Journal

variable {σ : Type}

/-! ## Modes -/

/-- What a mode does about one thing that it received. -/
structure Reaction (σ : Type) where
  session : Session σ
  text : String
  events : List Event
  /-- How the dialogue ends here, `none` if it goes on. -/
  ending : Option (Except Fault Unit)

structure Mode (σ : Type) where
  opening : String
  /-- Written before each line is read. -/
  prompt : String
  react : Session σ → Received → Reaction σ

namespace Reaction

def goOn (session : Session σ) (text : String) : Reaction σ :=
  ⟨session, text, [], none⟩

def stop (session : Session σ) (result : Except Fault Unit) : Reaction σ :=
  ⟨session, "", [], some result⟩

/-- Processes a line and shows its outcome. -/
def toCommand (handler : Handler σ) (quiet : Bool) (session : Session σ) (line : String) :
    Reaction σ :=
  let step := session.process handler line
  ⟨step.session, render step.session.catalog quiet step.outcome, step.events, none⟩

end Reaction

def scriptReact (handler : Handler σ) (quiet : Bool) (session : Session σ) :
    Received → Reaction σ
  | .line line => .toCommand handler quiet session line
  | .blank => ⟨session, "", [.blankLine], none⟩
  | .notText => .stop session (.error .notText)
  | .finished => .stop session (.ok ())
  | .failed fault => .stop session (.error fault)

def Mode.script (handler : Handler σ) (quiet : Bool) : Mode σ :=
  ⟨"", "", scriptReact handler quiet⟩

/-- A word that the interactive dialogue answers by itself. -/
inductive Directive where
  | stop
  | listTables
  deriving DecidableEq, Repr

def Directive.ofLine? (line : String) : Option Directive :=
  let word := Text.trim line.toList
  if word = ".exit".toList ∨ word = ".quit".toList then some stop
  else if word = ".tables".toList then some listTables
  else none

def renderNames (names : List String) : String :=
  String.join (names.map ended)

def interactiveReact (handler : Handler σ) (quiet : Bool) (session : Session σ)
    (received : Received) : Reaction σ :=
  match received with
  | .line line =>
    match Directive.ofLine? line with
    | some .stop => .stop session (.ok ())
    | some .listTables => .goOn session (renderNames session.catalog.registry.names)
    | none => .toCommand handler quiet session line
  | .blank | .notText => .goOn session (ended (received.complaint?.getD ""))
  | .finished => .stop session (.ok ())
  -- A fault of the device is told from a line that is no text by its kind only.
  | .failed fault =>
    if fault.kind = .invalidData then .goOn session (ended (received.complaint?.getD ""))
    else .stop session (.error fault)

def Mode.interactive (handler : Handler σ) (quiet : Bool) (prompt : String) : Mode σ :=
  ⟨ended "sqlight (type '.exit' or '.quit' to stop)", "\n" ++ prompt,
    interactiveReact handler quiet⟩

/-! ## Turns -/

/-- How a dialogue is carried out, where `ρ` is what is still to come of it. -/
structure Stage (σ ρ : Type) where
  /-- Says a text on behalf of a session. -/
  say : Session σ → String → ρ → ρ
  receive : (Received → ρ) → ρ
  note : List Event → ρ → ρ

/-- One turn: the prompt, what is received, and what is done about it. -/
def Mode.turn {ρ : Type} (mode : Mode σ) (stage : Stage σ ρ) (session : Session σ)
    (stop : Session σ → Except Fault Unit → ρ) (goOn : Session σ → ρ) : ρ :=
  stage.say session mode.prompt <| stage.receive fun received =>
    let reaction := mode.react session received
    stage.note reaction.events <| stage.say reaction.session reaction.text <|
      match reaction.ending with
      | some result => stop reaction.session result
      | none => goOn reaction.session

/-! ## Running -/

structure Transcript (σ : Type) where
  result : Except Fault Unit
  output : List UInt8
  session : Session σ
  events : List Event

namespace Transcript

def ending (session : Session σ) (result : Except Fault Unit) : Transcript σ :=
  ⟨result, [], session, []⟩

def afterOutput (bytes : List UInt8) (t : Transcript σ) : Transcript σ :=
  { t with output := bytes ++ t.output }

def afterEvents (events : List Event) (t : Transcript σ) : Transcript σ :=
  { t with events := events ++ t.events }

end Transcript

/-- Writes a text and goes on, or ends the dialogue where the sink is full. -/
def say (sink : Sink) (session : Session σ) (text : String) (next : Sink → Transcript σ) :
    Transcript σ :=
  let bytes := Text.bytes text
  if sink.fits bytes then (next (sink.after bytes)).afterOutput bytes
  else ⟨.error (.unwritable sink.reason), sink.accepted bytes, session, []⟩

/-- Has received one thing, and writes to a sink. -/
def Stage.recorded (received : Received) : Stage σ (Sink → Transcript σ) where
  say session text next := fun sink => Console.say sink session text next
  receive next := next received
  note events next := fun sink => (next sink).afterEvents events

def converse (mode : Mode σ) (sink : Sink) (session : Session σ) :
    List Received → Transcript σ
  | [] => .ending session (.ok ())
  | received :: rest =>
    mode.turn (.recorded received) session (fun session result _ => .ending session result)
      (fun session sink => converse mode sink session rest) sink

theorem converse_cons (mode : Mode σ) (sink : Sink) (session : Session σ) (received : Received)
    (rest : List Received) :
    converse mode sink session (received :: rest) =
      say sink session mode.prompt fun sink =>
        let reaction := mode.react session received
        .afterEvents reaction.events <|
          say sink reaction.session reaction.text fun sink =>
            match reaction.ending with
            | some result => .ending reaction.session result
            | none => converse mode sink reaction.session rest := by
  simp only [converse, Mode.turn, Stage.recorded]
  cases (mode.react session received).ending <;> rfl

def Mode.run (mode : Mode σ) (sink : Sink) (session : Session σ) (input : Input) :
    Transcript σ :=
  say sink session mode.opening fun sink => converse mode sink session input.received

end SchemaShell.Console
