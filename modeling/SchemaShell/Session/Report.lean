import SchemaShell.Catalog.Basic
import SchemaShell.Command.Recognize
import SchemaShell.Schema.Build

/-!
# Reports and refusals

What becomes of a line: it may open no command, have a wrong shape, or be handled. A command that
is handled ends in a report or in a refusal.
-/

namespace SchemaShell

/-- Why a well-formed command was not carried out. -/
inductive Refusal where
  | schema (error : Schema.BuildError)
  | duplicateTable (name : String)
  | listNotAllowed
  | registry (error : Catalog.RegistryError)
  | handler (reason : String)
  deriving DecidableEq, Repr

def Refusal.message : Refusal → String
  | schema error => error.message
  | duplicateTable name => "Table " ++ name ++ " already exists."
  | listNotAllowed => "Wrong command: too many table names."
  | registry error => error.message
  | handler reason => "Handler failed: " ++ reason

/-- What was done with a command. -/
inductive Report where
  | tableCreated (name : String) (ifNotExists : Bool)
  /-- The table was to be created only if it did not exist, and it does. -/
  | tableExists (name : String)
  | tableDropped (name : String)
  | deferred (kind : Command.Kind)
  deriving DecidableEq, Repr

def Report.message : Report → String
  | tableCreated name _ => "Table " ++ name ++ " has been created."
  | tableExists name => "Table " ++ name ++ " already exists, nothing to do."
  | tableDropped name => "Table " ++ name ++ " has been dropped."
  | deferred kind => kind.name ++ " accepted."

inductive Outcome where
  | unrecognized
  | malformed (error : Command.FormatError)
  | handled (kind : Command.Kind) (result : Except Refusal Report)

def Outcome.kind? : Outcome → Option Command.Kind
  | unrecognized => none
  | malformed error => some error.kind
  | handled kind _ => some kind

end SchemaShell
