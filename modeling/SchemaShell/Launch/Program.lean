import SchemaShell.Console.Dialogue
import SchemaShell.Launch.LogFilter
import SchemaShell.Launch.Options

/-!
# The program

What the program does with its arguments in a given world: it reads its options, sets up its log
filter, and runs a script or a dialogue on the standard input. A usage error has exit code 2; all
else that may go wrong is told on the error output only.
-/

namespace SchemaShell.Launch

open Console

/-! ## Fixed texts -/

def versionText : String := "sqlight 0.1.0\n"

def helpLines : List String :=
  ["Line-oriented front-end for a minimal relational store",
    "",
    "Usage: sqlight [OPTIONS] [SCRIPT]",
    "",
    "Arguments:",
    "  [SCRIPT]  Read commands from this file instead of the terminal",
    "",
    "Options:",
    "  -q, --quiet            Do not print the schema of newly created tables",
    "  -v, --verbose...       Increase log verbosity (-v info, -vv debug, -vvv trace)",
    "      --prompt <PROMPT>  [default: \"sqlight> \"]",
    "  -h, --help             Print help",
    "  -V, --version          Print version"]

def helpText : String :=
  String.join (helpLines.map ended)

def cannotOpen (path reason : String) : String :=
  "Cannot open script '" ++ path ++ "': " ++ reason

def sessionEnded (fault : Fault) : String :=
  "Session ended with an I/O error: " ++ fault.message

def usageExitCode : Nat := 2

/-! ## Running -/

/-- What the program finds when it starts. -/
structure World where
  standardInput : Input
  /-- The content of a file, or why it cannot be opened. -/
  openScript : String → Except String Input
  /-- The log specification of the environment. -/
  logSpec : Option String

/-- What is seen of the program after its end. -/
structure Finish where
  exitCode : Nat
  output : List UInt8
  errorLines : List String

/-- The log filter for a verbosity and a specification, and the warnings about the latter. -/
def setUpLog (verbosity : Nat) (spec : Option String) : LogFilter × List String :=
  match spec with
  | none => (.ofVerbosity verbosity, [])
  | some spec => (LogFilter.ofVerbosity verbosity).withSpec spec

/-- The dialogue that the options ask for. -/
def modeOf (options : Options) : Mode Unit :=
  match options.script with
  | some _ => .script .deferring options.quiet
  | none => .interactive .deferring options.quiet options.prompt

def inputOf (options : Options) (world : World) : Except String Input :=
  match options.script with
  | some path => world.openScript path
  | none => .ok world.standardInput

/-- The lines on the error output for a dialogue that has ended. -/
def errorLinesOf (filter : LogFilter) (t : Transcript Unit) : List String :=
  (t.events.filter filter.passes).map logLine ++
    match t.result with
    | .ok () => []
    | .error fault => [sessionEnded fault]

def runWith (options : Options) (world : World) : Finish :=
  let (filter, warnings) := setUpLog options.verbosity world.logSpec
  match inputOf options world with
  | .error reason => ⟨0, [], warnings ++ [cannotOpen (options.script.getD "") reason]⟩
  | .ok input =>
    let t := (modeOf options).run .unlimited (.start ()) input
    ⟨0, t.output, warnings ++ errorLinesOf filter t⟩

def run (arguments : List String) (world : World) : Finish :=
  match Options.parse arguments with
  | .error .help => ⟨0, Text.bytes helpText, []⟩
  | .error .version => ⟨0, Text.bytes versionText, []⟩
  | .error (.usage error) => ⟨usageExitCode, [], [error.message]⟩
  | .ok options => runWith options world

end SchemaShell.Launch
