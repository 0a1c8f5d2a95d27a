import SchemaShell.Text.Terminal

/-!
# Options

The command line of the program. Arguments are taken from left to right. The script and the value
of an option wait until the next argument of another sort has been recognised, and are looked at
only then, so that an argument that is not known is reported before a value that cannot be used.
-/

namespace SchemaShell.Launch

structure Options where
  script : Option String
  quiet : Bool
  verbosity : Nat
  prompt : String
  deriving DecidableEq, Repr

/-! ## Names -/

/-- What may be given on the command line. -/
inductive Argument where
  | script
  | quiet
  | verbose
  | prompt
  | help
  | version
  deriving DecidableEq, Repr

def Argument.name : Argument → String
  | script => "[SCRIPT]"
  | quiet => "--quiet"
  | verbose => "--verbose..."
  | prompt => "--prompt <PROMPT>"
  | help => "--help"
  | version => "--version"

/-- The options that stand by themselves. -/
inductive Flag where
  | quiet
  | verbose
  | help
  | version
  deriving DecidableEq, Repr

namespace Flag

def argument : Flag → Argument
  | quiet => .quiet
  | verbose => .verbose
  | help => .help
  | version => .version

def long : Flag → String
  | quiet => "quiet"
  | verbose => "verbose"
  | help => "help"
  | version => "version"

def short : Flag → Char
  | quiet => 'q'
  | verbose => 'v'
  | help => 'h'
  | version => 'V'

def all : List Flag :=
  [quiet, verbose, help, version]

def ofLong? (name : String) : Option Flag :=
  all.find? (·.long == name)

def ofShort? (letter : Char) : Option Flag :=
  all.find? (·.short == letter)

end Flag

/-! ## Errors -/

inductive UsageError where
  | unexpectedArgument (argument : String)
  | repeated (argument : Argument)
  | missingValue (argument : Argument)
  | unexpectedValue (value : String) (argument : Argument)
  deriving DecidableEq, Repr

/-- The message about an error; of what the user wrote it holds what a terminal shows. -/
def UsageError.message : UsageError → String
  | unexpectedArgument argument =>
    "error: unexpected argument '" ++ Text.shown argument ++ "' found"
  | repeated argument =>
    "error: the argument '" ++ argument.name ++ "' cannot be used multiple times"
  | missingValue argument =>
    "error: a value is required for '" ++ argument.name ++ "' but none was supplied"
  | unexpectedValue value argument =>
    "error: unexpected value '" ++ Text.shown value ++ "' for '" ++ argument.name ++
      "' found; no more were expected"

/-- Why the program does not start a dialogue. -/
inductive Stop where
  | help
  | version
  | usage (error : UsageError)
  deriving DecidableEq, Repr

/-! ## Taking arguments -/

/-- A value that has been given but not yet looked at. -/
inductive Waiting where
  | nothing
  | script (path : String)
  /-- The option has been named; its value may still be missing. -/
  | prompt (text : Option String)
  deriving DecidableEq, Repr

structure Progress where
  script : Option String
  quiet : Bool
  verbosity : Nat
  prompt : Option String
  waiting : Waiting
  /-- Whether the place for the script has been taken. -/
  scriptGiven : Bool
  deriving DecidableEq, Repr

namespace Progress

def start : Progress where
  script := none
  quiet := false
  verbosity := 0
  prompt := none
  waiting := .nothing
  scriptGiven := false

def refuse {α : Type} (error : UsageError) : Except Stop α :=
  .error (.usage error)

def takePrompt (progress : Progress) (text : String) : Except Stop Progress :=
  match progress.prompt with
  | some _ => refuse (.repeated .prompt)
  | none => .ok { progress with prompt := some text }

def settle (progress : Progress) : Except Stop Progress :=
  let settled := { progress with waiting := .nothing }
  match progress.waiting with
  | .nothing => .ok settled
  | .script path =>
    if path = "" then refuse (.missingValue .script) else .ok { settled with script := some path }
  | .prompt none => refuse (.missingValue .prompt)
  | .prompt (some text) => settled.takePrompt text

/-- The greatest verbosity that is told apart. -/
def maxVerbosity : Nat := 255

def takeFlag (progress : Progress) (flag : Flag) : Except Stop Progress := do
  let settled ← progress.settle
  match flag with
  | .quiet =>
    if settled.quiet then refuse (.repeated .quiet) else return { settled with quiet := true }
  | .verbose => return { settled with verbosity := min (settled.verbosity + 1) maxVerbosity }
  | .help => .error .help
  | .version => .error .version

/-- An argument that starts with two hyphens, without them: a name, and perhaps a value. -/
def takeLong (progress : Progress) (name : String) (value : Option String) :
    Except Stop Progress :=
  match Flag.ofLong? name, value with
  | some flag, none => progress.takeFlag flag
  | some flag, some value => refuse (.unexpectedValue value flag.argument)
  | none, value =>
    if name = "prompt" then do
      let settled ← progress.settle
      match value with
      | some text => settled.takePrompt text
      | none => return { settled with waiting := .prompt none }
    else
      refuse (.unexpectedArgument ("--" ++ name))

/-- The letters after one hyphen, each a flag of its own. -/
def takeShorts (progress : Progress) : List Char → Except Stop Progress
  | [] => .ok progress
  | letter :: letters =>
    match Flag.ofShort? letter with
    | none => refuse (.unexpectedArgument (String.ofList ['-', letter]))
    | some flag => do
      let next ← progress.takeFlag flag
      next.takeShorts letters

/-- An argument in the place of the script. -/
def takePlain (progress : Progress) (text : String) : Except Stop Progress :=
  if progress.scriptGiven then refuse (.unexpectedArgument text)
  else do
    let settled ← progress.settle
    return { settled with waiting := .script text, scriptGiven := true }

/-- Splits `name=value` at the first equals sign. -/
def splitValue (text : List Char) : String × Option String :=
  let name := String.ofList (text.takeWhile (· ≠ '='))
  match text.dropWhile (· ≠ '=') with
  | [] => (name, none)
  | _ :: value => (name, some (String.ofList value))

def take (progress : Progress) (argument : String) : Except Stop Progress :=
  match argument.toList with
  | '-' :: '-' :: text =>
    let (name, value) := splitValue text
    progress.takeLong name value
  | '-' :: letter :: letters => progress.takeShorts (letter :: letters)
  | _ =>
    if progress.waiting = .prompt none then
      .ok { progress with waiting := .prompt (some argument) }
    else
      progress.takePlain argument

/-- Takes all arguments; after two hyphens alone each is taken as it stands. -/
def takeAll (progress : Progress) : List String → Except Stop Progress
  | [] => progress.settle
  | "--" :: arguments => do
    let taken ← arguments.foldlM takePlain progress
    taken.settle
  | argument :: arguments => do
    let next ← progress.take argument
    next.takeAll arguments

end Progress

def defaultPrompt : String := "sqlight> "

def Options.parse (arguments : List String) : Except Stop Options := do
  let progress ← Progress.start.takeAll arguments
  return {
    script := progress.script
    quiet := progress.quiet
    verbosity := progress.verbosity
    prompt := progress.prompt.getD defaultPrompt }

end SchemaShell.Launch
