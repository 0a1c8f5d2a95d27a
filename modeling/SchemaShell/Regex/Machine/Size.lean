import SchemaShell.Regex.Basic
import SchemaShell.Regex.Machine.Step
import SchemaShell.Regex.Machine.Words

/-!
# Sizes of machines

The machine for an expression, in both directions. Each repetition has a copy of the machine for its
body. Groups are noticed forwards only. The machine starts wherever a match could start, unless the
expression asks for the start of the text, or backwards for its end.
-/

namespace SchemaShell.Regex.Machine

/-- What leads out of a part of a machine: a link that is there already, or a new link of a fork. -/
inductive Exit where
  | plain
  | fork
  deriving DecidableEq, Repr

/-- Leads on from an exit. -/
def Exit.follow : Exit → Build Unit
  | plain => return
  | fork => Build.links 1

/-! ## Parts in a row -/

/-- Parts one after the other; without any there is a state all the same. -/
def inARow : List (Build Exit) → Build Exit
  | [] => do
    let _ ← Build.state
    return .plain
  | [part] => part
  | part :: parts => do
    (← part).follow
    inARow parts

def copies (part : Build Exit) : Nat → Build Exit
  | 0 => inARow []
  | 1 => part
  | count + 2 => do
    (← part).follow
    copies part (count + 1)

/-- The ways of a choice. The fork in front and the state behind them come after the second way. -/
def choice : List (Build Exit) → Build Exit
  | first :: second :: others => do
    (← first).follow
    (← second).follow
    Build.states 2
    Build.links 2
    others.forM fun way => do
      (← way).follow
      Build.links 1
    return .plain
  | parts => inARow parts

/-! ## Repetitions -/

/-- So many copies each of which can be left out with all after it; `before` leads to the first. -/
def optionalCopies (part : Build Exit) (before : Exit) : Nat → Build Exit
  | 0 => do
    before.follow
    return .plain
  | count + 1 => do
    Build.states 1
    let exit ← part
    before.follow
    Build.links 2
    optionalCopies part exit count

/-- Any number of copies. A part that takes something in any case can follow itself; otherwise there
is a second fork for none at all. -/
def anyNumber (part : Build Exit) (takesSomething : Bool) : Build Exit := do
  if takesSomething then
    Build.states 1
    (← part).follow
    Build.links 1
    return .fork
  else
    (← part).follow
    Build.states 3
    Build.links 4
    return .plain

def oneOrMore (part : Build Exit) : Build Exit := do
  (← part).follow
  Build.states 1
  Build.links 1
  return .fork

def repetition (part : Build Exit) (takesSomething : Bool) : Nat → Option Nat → Build Exit
  | 0, some 1 => do
    Build.states 1
    let exit ← part
    Build.states 1
    Build.links 2
    exit.follow
    return .plain
  | 0, none => anyNumber part takesSomething
  | 1, none => oneOrMore part
  | least + 2, none => do
    (← copies part (least + 1)).follow
    oneOrMore part
  | least, some most => do
    let exit ← copies part least
    if least = most then
      return exit
    Build.states 1
    optionalCopies part exit (most - least)

/-! ## Expressions -/

def words? (direction : Direction) (ways : List Regex) : Option Words :=
  ways.mapM fun
    | .literal text => some (direction.order (text.flatMap fun c => utf8 c.toNat))
    | _ => none

def expression (direction : Direction) (regex : Regex) : Build Exit :=
  match regex with
  | .empty | .condition _ => do
    Build.states 1
    return .plain
  | .literal text => do
    Build.states (Regex.byteCount text)
    return .plain
  | .step _ set => do
    step direction set
    return .plain
  | .captured _ body =>
    match direction with
    | .forwards => do
      Build.states 1
      let exit ← expression .forwards body
      Build.states 1
      exit.follow
      return .plain
    | .backwards => expression .backwards body
  | .repeated least most _ body =>
    let takesSomething := body.leastBytes.any (0 < ·)
    repetition (expression direction body) takesSomething least most
  | .andThen first rest =>
    inARow (direction.order ((first :: rest.parts).attach.map fun part =>
      have := Regex.sizeOf_lt_of_mem_andThen part.2
      expression direction part.1))
  | .orElse first others =>
    match words? direction (first :: others.ways) with
    | some texts => do
      words texts
      return .plain
    | none =>
      choice ((first :: others.ways).attach.map fun way =>
        have := Regex.sizeOf_lt_of_mem_orElse way.2
        expression direction way.1)
termination_by sizeOf regex

/-! ## Whole machines -/

/-- Whether one of several parts asks for something before any character is taken. Of each part it
is told whether it asks, and whether it takes nothing. -/
def asksInTime : List (Bool × Bool) → Bool
  | [] => false
  | (asks, takesNothing) :: parts => asks || (takesNothing && asksInTime parts)

/-- Whether an expression asks for one thing about the place where a match starts, or backwards
about the one where it ends. -/
def asksFirst (direction : Direction) (look : Look) (regex : Regex) : Bool :=
  match regex with
  | .empty | .literal _ | .step .. => false
  | .condition other => other == look
  | .captured _ body => asksFirst direction look body
  | .repeated least _ _ body => 0 < least && asksFirst direction look body
  | .orElse first others => asksFirst direction look first && asksFirst direction look others
  | .andThen first rest =>
    asksInTime (direction.order ((first :: rest.parts).attach.map fun part =>
      have := Regex.sizeOf_lt_of_mem_andThen part.2
      (asksFirst direction look part.1, part.1.takesNothing)))
termination_by sizeOf regex

/-- The start of a machine. Unless a match is bound to the place where the machine starts, any bytes
may come before it. -/
def start (bound : Bool) : Build Unit := do
  if bound then
    Build.states 1
  else
    Build.states 2
    let _ ← Build.branch 1
    Build.links 2

def whole (direction : Direction) (regex : Regex) : Build Unit := do
  match direction with
  | .forwards =>
    start (asksFirst .forwards .textStart regex)
    Build.states 1
    (← expression .forwards regex).follow
    Build.states 2
  | .backwards =>
    start (asksFirst .backwards .textEnd regex)
    (← expression .backwards regex).follow
    Build.states 1

/-- Whether a machine is built within the limit in both directions. -/
def fits (regex : Regex) : Bool :=
  ((whole .forwards regex).run {}).isSome && ((whole .backwards regex).run {}).isSome

end SchemaShell.Regex.Machine
