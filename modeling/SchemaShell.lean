import SchemaShell.Command.Recognize
import SchemaShell.Console.Dialogue
import SchemaShell.Launch.Program
import SchemaShell.Main
import SchemaShell.Proofs.Catalog.Entries
import SchemaShell.Proofs.Command.Captures
import SchemaShell.Proofs.Command.Case
import SchemaShell.Proofs.Command.FirstMatch
import SchemaShell.Proofs.Command.Matched
import SchemaShell.Proofs.Console.Agreement
import SchemaShell.Proofs.Console.FullSink
import SchemaShell.Proofs.Console.LineEnds
import SchemaShell.Proofs.Console.Processed
import SchemaShell.Proofs.Console.Quiet
import SchemaShell.Proofs.Launch.Logging
import SchemaShell.Proofs.Launch.Options
import SchemaShell.Proofs.Schema.Conversion
import SchemaShell.Proofs.Schema.Respread
import SchemaShell.Proofs.Session.Decision
import SchemaShell.Proofs.Session.Delivery
import SchemaShell.Proofs.Session.Display
import SchemaShell.Proofs.Session.Journal
import SchemaShell.Proofs.Session.Layout
import SchemaShell.Proofs.Session.OneTable
import SchemaShell.Proofs.Session.Recognition
import SchemaShell.Proofs.Session.Restore
import SchemaShell.Proofs.Session.Undo
import SchemaShell.Schema.Build
import SchemaShell.Session.Basic
