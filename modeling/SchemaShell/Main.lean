import SchemaShell.Launch.Program

/-!
# The command line program

Reads the arguments, the environment and the input, and runs one dialogue. What is said and written
down for a line is decided by the mode of the dialogue; here it is only carried out.
-/

namespace SchemaShell.Launch

open Console

/-- The system's text for an error and its number. -/
def reasonOf : IO.Error → String
  | .alreadyExists _ code details | .invalidArgument _ code details
  | .permissionDenied _ code details | .resourceExhausted _ code details
  | .inappropriateType _ code details | .noSuchThing _ code details
  | .noFileOrDirectory _ code details | .interrupted _ code details
  | .otherError code details | .resourceBusy code details | .resourceVanished code details
  | .unsupportedOperation code details | .hardwareFault code details
  | .unsatisfiedConstraints code details | .illegalOperation code details
  | .protocolError code details | .timeExpired code details =>
    details ++ " (os error " ++ Text.decimal code.toNat ++ ")"
  | .unexpectedEof => "unexpected end of file"
  | .userError text => text

/-- Reads up to and including the next line feed. -/
partial def readLine (input : IO.FS.Stream) (line : ByteArray) : IO ByteArray := do
  let read ← input.read 1
  match read.toList with
  | [] => return line
  | byte :: _ =>
    if byte = lineFeed then return line.push byte else readLine input (line.push byte)

def receive (input : IO.FS.Stream) : IO Received := do
  try
    let line ← readLine input .empty
    return if line.isEmpty then .finished else .ofLine line.toList
  catch error =>
    return .failed (.unreadable (reasonOf error))

def printLog (filter : LogFilter) (events : List Journal.Event) : IO Unit := do
  for event in events do
    if filter.passes event then
      IO.eprintln (logLine event)

/-- Reads one stream, writes another, and keeps the journal on the error output. -/
def streams (filter : LogFilter) (input output : IO.FS.Stream) :
    Stage Unit (IO (Except Fault Unit)) where
  say _ text next := do
    output.putStr text
    output.flush
    next
  receive next := do next (← Launch.receive input)
  note events next := do
    printLog filter events
    next

partial def converseOn (mode : Mode Unit) (stage : Stage Unit (IO (Except Fault Unit)))
    (session : Session Unit) : IO (Except Fault Unit) :=
  mode.turn stage session (fun _ result => pure result) (converseOn mode stage)

def runDialogue (mode : Mode Unit) (filter : LogFilter) (input : IO.FS.Stream) : IO Unit := do
  let output ← IO.getStdout
  let result ←
    try
      output.putStr mode.opening
      converseOn mode (streams filter input output) (.start ())
    catch error =>
      pure (.error (.unwritable (reasonOf error)))
  match result with
  | .ok () => output.flush
  | .error fault => IO.eprintln (sessionEnded fault)

def openInput (options : Options) : IO (Except String IO.FS.Stream) := do
  match options.script with
  | none => return .ok (← IO.getStdin)
  | some path =>
    try
      return .ok (.ofHandle (← IO.FS.Handle.mk path .read))
    catch error =>
      return .error (reasonOf error)

def start (options : Options) : IO Unit := do
  let (filter, warnings) := setUpLog options.verbosity (← IO.getEnv "RUST_LOG")
  warnings.forM fun warning => IO.eprintln warning
  match ← openInput options with
  | .error reason => IO.eprintln (cannotOpen (options.script.getD "") reason)
  | .ok input => runDialogue (modeOf options) filter input

end SchemaShell.Launch

open SchemaShell.Launch in
def main (arguments : List String) : IO UInt32 := do
  match Options.parse arguments with
  | .error .help => IO.print helpText; return 0
  | .error .version => IO.print versionText; return 0
  | .error (.usage error) => IO.eprintln error.message; return UInt32.ofNat usageExitCode
  | .ok options => start options; return 0
