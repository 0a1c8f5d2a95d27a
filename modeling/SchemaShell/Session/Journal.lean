import SchemaShell.Session.Report
import SchemaShell.Text.Quoted

/-!
# The journal

What a session writes down about its work. Each event has a level and a source, by which a reader
of the journal may select, and a message.
-/

namespace SchemaShell

namespace Journal

/-- Levels, the most urgent first. -/
inductive Level where
  | error
  | warn
  | info
  | debug
  | trace
  deriving DecidableEq, Repr

namespace Level

def all : List Level :=
  [error, warn, info, debug, trace]

def name : Level → String
  | error => "ERROR"
  | warn => "WARN"
  | info => "INFO"
  | debug => "DEBUG"
  | trace => "TRACE"

/-- The place of a level, 1 for the most urgent. -/
def rank (level : Level) : Nat :=
  level.ctorIdx + 1

end Level

/-- The part of the program that an event comes from. -/
inductive Source where
  | program
  | session
  | handler
  deriving DecidableEq, Repr

def Source.name : Source → String
  | program => "sqlight"
  | session => "sqlight::executor"
  | handler => "sqlight::executor::handler"

inductive Event where
  | blankLine
  | unrecognized (line : String)
  | classified (kind : Command.Kind)
  | malformed (kind : Command.Kind)
  | rejected (kind : Command.Kind) (refusal : Refusal)
  | alreadyExists (name : String)
  | created (name : String) (columns : Nat)
  | dropped (name : String)
  /-- Written by the handler of the session. -/
  | note (level : Level) (text : String)
  deriving DecidableEq, Repr

namespace Event

def level : Event → Level
  | blankLine => .trace
  | unrecognized _ | classified _ => .debug
  | malformed _ | rejected .. => .warn
  | alreadyExists _ | created .. | dropped _ => .info
  | note level _ => level

def source : Event → Source
  | blankLine => .program
  | note .. => .handler
  | _ => .session

def message : Event → String
  | blankLine => "skipping blank line"
  | unrecognized line => "unrecognized command: " ++ Text.quoted line
  | classified kind => "classified as " ++ kind.name
  | malformed kind => "malformed " ++ kind.name ++ " command"
  | rejected kind refusal => kind.name ++ " rejected: " ++ refusal.message
  | alreadyExists name => "table " ++ name ++ " already exists, skipping"
  | created name columns =>
    "table " ++ name ++ " created with " ++ Text.decimal columns ++ " column(s)"
  | dropped name => "table " ++ name ++ " dropped"
  | note _ text => text

end Event

end Journal

end SchemaShell
