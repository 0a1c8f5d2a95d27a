import SchemaShell.Session.Basic

/-!
# What is shown for a line

A line that opens no command and a command that is left to others show nothing. A new table shows
its schema, unless the console is quiet.
-/

namespace SchemaShell.Console

def ended (line : String) : String :=
  line ++ "\n"

/-- The text of a report, given the catalog after the command. -/
def renderReport (catalog : Catalog) (quiet : Bool) (report : Report) : String :=
  match report with
  | .deferred _ => ""
  | .tableCreated name ifNotExists =>
    let notice := if ifNotExists then ended "IF NOT EXISTS used." else ""
    let schema :=
      match catalog.store.get? name with
      | some table => if quiet then "" else ended table.display
      | none => ""
    notice ++ schema ++ ended report.message
  | .tableExists _ | .tableDropped _ => ended report.message

def render (catalog : Catalog) (quiet : Bool) : Outcome → String
  | .unrecognized => ""
  | .malformed error => "\n" ++ ended error.message
  | .handled _ (.error refusal) => ended refusal.message
  | .handled _ (.ok report) => renderReport catalog quiet report

end SchemaShell.Console
