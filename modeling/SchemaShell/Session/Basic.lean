import SchemaShell.Session.Handler
import SchemaShell.Session.TableCommand

/-!
# Sessions

A session takes one line at a time. It recognises the command, carries it out or hands it on, and
says in the journal what it did.
-/

namespace SchemaShell

open Journal

/-- The state of a session whose handler has a state in `σ`. -/
structure Session (σ : Type) where
  catalog : Catalog
  handlerState : σ

namespace Session

variable {σ : Type}

def start (handlerState : σ) : Session σ :=
  ⟨.empty, handlerState⟩

/-- The end of a command: the session after it, the result, and what was written down. -/
structure Done (σ : Type) where
  session : Session σ
  result : Except Refusal Report
  events : List Event

def withChange (session : Session σ) (change : Catalog.Change) : Done σ :=
  ⟨{ session with catalog := change.catalog }, change.result, change.events⟩

def handOn (handler : Handler σ) (session : Session σ) (command : Command) : Done σ :=
  let reply := handler.reply session.handlerState command
  ⟨{ session with handlerState := reply.state }, reply.result,
    reply.notes.map fun n => .note n.1 n.2⟩

@[simp] theorem catalog_handOn (handler : Handler σ) (session : Session σ) (command : Command) :
    (session.handOn handler command).session.catalog = session.catalog := rfl

def carryOut (handler : Handler σ) (session : Session σ) (command : Command) : Done σ :=
  match command.kind with
  | .createTable => session.withChange (session.catalog.createTable command)
  | .dropTable => session.withChange (session.catalog.dropTable command)
  | _ => session.handOn handler command

/-- The end of a line. -/
structure Step (σ : Type) where
  session : Session σ
  outcome : Outcome
  events : List Event

/-- The event of a command that was refused. -/
def rejection (kind : Command.Kind) : Except Refusal Report → List Event
  | .ok _ => []
  | .error refusal => [.rejected kind refusal]

def process (handler : Handler σ) (session : Session σ) (line : String) : Step σ :=
  match Command.classify line with
  | none => ⟨session, .unrecognized, [.unrecognized line]⟩
  | some kind =>
    match Command.validate kind line with
    | .error error => ⟨session, .malformed error, [.classified kind, .malformed kind]⟩
    | .ok command =>
      let done := session.carryOut handler command
      ⟨done.session, .handled kind done.result,
        .classified kind :: done.events ++ rejection kind done.result⟩

def processAll (handler : Handler σ) (session : Session σ) (lines : List String) : Session σ :=
  lines.foldl (fun s line => (s.process handler line).session) session

theorem processAll_append (handler : Handler σ) (session : Session σ) (first rest : List String) :
    session.processAll handler (first ++ rest) =
      (session.processAll handler first).processAll handler rest :=
  List.foldl_append

end Session

end SchemaShell
