import SchemaShell.Regex.Reader.Brackets
import SchemaShell.Unicode.Property.Letter
import SchemaShell.Unicode.Recent

/-!
# Patterns

Alternatives of sequences of repeated parts. A group reaches to its closing parenthesis; flags
without a group hold to the end of the group around them.
-/

namespace SchemaShell.Regex

/-! ## Names of groups -/

def alphabeticSet : Unicode.Ranges :=
  Unicode.Property.alphabetic.union Unicode.Recent.alphabetic

def numericSet : Unicode.Ranges :=
  (Unicode.Category.rangesOf Unicode.Category.numbers).union Unicode.Recent.numbers

def isAlphabetic (c : Char) : Bool :=
  alphabeticSet.has c.toNat

def isNumeric (c : Char) : Bool :=
  numericSet.has c.toNat

def startsName (c : Char) : Bool :=
  c == '_' || isAlphabetic c

def continuesName (c : Char) : Bool :=
  startsName c || c == '.' || c == '[' || c == ']' || isNumeric c

/-! ## Flags -/

/-- A flag, or the hyphen after which flags are taken back, and where it stands. -/
abbrev FlagMark := Option Flag × Span

/-- What marks set: the flags up to the hyphen are set, those after it are taken back. -/
def settingsOf (value : Bool) : List FlagMark → FlagSettings
  | [] => []
  | (none, _) :: marks => settingsOf false marks
  | (some flag, _) :: marks => (flag, value) :: settingsOf value marks

namespace Reader

/-- The flags up to a colon or a closing parenthesis. `marks` are those before, the last one
first. -/
def flagMarks : Nat → List FlagMark → Reader (List FlagMark)
  | 0, marks => return marks.reverse
  | steps + 1, marks => do
    match ← peek? with
    | none => fail .flagUnexpectedEnd (← hereSpan)
    | some c =>
      if c = ':' ∨ c = ')' then
        match marks with
        | (none, span) :: _ => fail .flagDanglingNegation span
        | _ => return marks.reverse
      else
        let span ← charSpan
        let flag := Flag.ofLetter? c
        if c ≠ '-' ∧ flag = none then
          fail .flagUnrecognized span
        match marks.find? (·.1 == flag) with
        | some (_, earlier) =>
          fail (if c = '-' then .flagRepeatedNegation else .flagDuplicate) span (some earlier)
        | none =>
          bump
          if ← atEnd then
            fail .flagUnexpectedEnd (← hereSpan)
          flagMarks steps ((flag, span) :: marks)

/-- Makes the pattern loose or not, if the settings say so. -/
def setLoose (settings : FlagSettings) : Reader Unit :=
  modify fun cursor => { cursor with loose := (settings.get? .loose).getD cursor.loose }

/-! ## Groups -/

def groupName : Reader Unit := do
  let start ← here
  match ← peek? with
  | none => fail .groupNameUnexpectedEnd (← hereSpan)
  | some c =>
    if c ≠ '>' ∧ !startsName c then
      fail .groupNameInvalid (← charSpan)
    let name ← takeWhile continuesName Cursor.bump
    match ← peek? with
    | none => fail .groupNameUnexpectedEnd (← hereSpan)
    | some '>' =>
      let span ← since start
      bump
      if name = [] then
        fail .groupNameEmpty (.point start)
      match (← get).names.find? (·.1 == name) with
      | some (_, earlier) => fail .groupNameDuplicate span (some earlier)
      | none => modify fun cursor => { cursor with names := (name, span) :: cursor.names }
    | some _ => fail .groupNameInvalid (← charSpan)

/-- The start of a group: its number, if it has one, and its settings, or flags that stand by
themselves. -/
inductive Opening where
  | group (number : Option Nat) (settings : FlagSettings)
  | flags (settings : FlagSettings)

def newGroup : Reader (Option Nat) :=
  modifyGet fun cursor => (some cursor.nextGroup, { cursor with nextGroup := cursor.nextGroup + 1 })

/-- What stands between the opening parenthesis and the body of a group, with at most so many
flags. -/
def groupOpening (opening : Span) (steps : Nat) : Reader Opening := do
  bump
  skip
  for mark in ["?=", "?!", "?<=", "?<!"] do
    if ← accept mark then
      fail .lookAround (← since opening.start)
  let question ← hereSpan
  if ← accept "?P<" then
    groupName
    return .group (← newGroup) []
  if ← accept "?<" then
    groupName
    return .group (← newGroup) []
  if ← accept "?" then
    if ← atEnd then
      fail .groupUnclosed opening
    let marks ← flagMarks steps []
    let closed := (← peek?) == some ')'
    bump
    if closed && marks.isEmpty then
      fail .repetitionMissing question
    return if closed then .flags (settingsOf true marks) else .group none (settingsOf true marks)
  return .group (← newGroup) []

/-! ## Repetitions -/

/-- A part of a sequence that can be repeated, and the parts before it, the last one first. -/
def lastPart (parts : List Tree) : Reader (Tree × List Tree) := do
  match parts with
  | [] => fail .repetitionMissing (← hereSpan)
  | part :: before =>
    if part.isBare then fail .repetitionMissing (← hereSpan) else return (part, before)

/-- Whether a repetition takes as much as it can: a question mark after it says that short
repetitions come first. -/
def greed : Reader Bool :=
  return !(← accept "?")

def simpleRepetition (least : Nat) (most : Option Nat) (parts : List Tree) :
    Reader (List Tree) := do
  let (part, before) ← lastPart parts
  bump
  let greedy ← greed
  return .repetition (← since part.span.start) least most greedy part :: before

/-- A number, with white space around it; `none` if there is no digit, told with the place. -/
def decimal : Reader (Except Fault Nat) := do
  let _ ← takeWhile Text.isWhiteSpace Cursor.bump
  let start ← here
  let digits ← takeWhile Char.isDigit Cursor.advance
  let span ← since start
  let _ ← takeWhile Text.isWhiteSpace Cursor.advance
  if digits = [] then
    return .error ⟨.repetitionCountEmpty, span, none⟩
  else if Text.decimalValue digits < UInt32.size then
    return .ok (Text.decimalValue digits)
  else
    return .error ⟨.decimalInvalid, span, none⟩

/-- The bounds of a counted repetition. `start` is the place of its opening brace. -/
def countBounds (start : Place) : Reader (Nat × Option Nat) := do
  advance
  if ← atEnd then
    fail .repetitionCountUnclosed (← since start)
  let least ← decimal
  match ← peek? with
  | none => fail .repetitionCountUnclosed (← since start)
  | some ',' =>
    advance
    match ← peek? with
    | none => fail .repetitionCountUnclosed (← since start)
    | some '\x7d' => return (← least, none)
    | some _ =>
      let least ← least
      let most ← decimal
      return (least, some (← most))
  | some _ =>
    let count ← least
    return (count, some count)

def countedRepetition (parts : List Tree) : Reader (List Tree) := do
  let start ← here
  let (part, before) ← lastPart parts
  let (least, most) ← countBounds start
  if (← peek?) ≠ some '\x7d' then
    fail .repetitionCountUnclosed (← since start)
  advance
  let greedy ← greed
  if most.any (· < least) then
    fail .repetitionCountInvalid (← since start)
  return .repetition (← since part.span.start) least most greedy part :: before

/-! ## Sequences and alternatives -/

/-- An escape, a dot, an assertion about lines, or a character that stands for itself. -/
def primitive (c : Char) : Reader Primitive := do
  let span ← charSpan
  match c with
  | '\\' => escape
  | '.' => bump; return .dot span
  | '^' => bump; return .assertion span .lineStart
  | '$' => bump; return .assertion span .lineEnd
  | c => return .literal (← verbatim c)

mutual

def alternatives : Nat → Reader (List Tree)
  | 0 => return []
  | steps + 1 => do
    let start ← here
    let parts ← sequence steps []
    let alternative := Tree.ofSequence (← since start) parts
    if (← peek?) = some '|' then
      bump
      return alternative :: (← alternatives steps)
    else
      return [alternative]

/-- The parts up to the end of an alternative. `parts` are those before, the last one first. -/
def sequence : Nat → List Tree → Reader (List Tree)
  | 0, parts => return parts.reverse
  | steps + 1, parts => do
    skip
    match ← peek? with
    | none | some ')' | some '|' => return parts.reverse
    | some '(' => sequence steps ((← group steps) :: parts)
    | some '[' =>
      match ← brackets steps with
      | .brackets span negated body => sequence steps (.brackets span negated body :: parts)
      | other => sequence steps (.brackets other.span false other :: parts)
    | some '?' => sequence steps (← simpleRepetition 0 (some 1) parts)
    | some '*' => sequence steps (← simpleRepetition 0 none parts)
    | some '+' => sequence steps (← simpleRepetition 1 none parts)
    | some '\x7b' => sequence steps (← countedRepetition parts)
    | some c => sequence steps (.primitive (← primitive c) :: parts)

/-- A group from its opening to its closing parenthesis, or flags that stand by themselves. -/
def group : Nat → Reader Tree
  | 0 => do fail .groupUnclosed (← charSpan)
  | steps + 1 => do
    let opening ← charSpan
    match ← groupOpening opening steps with
    | .flags settings =>
      setLoose settings
      return .flags (← since opening.start) settings
    | .group number settings =>
      let outside := (← get).loose
      setLoose settings
      let start ← here
      let body ← alternatives steps
      let body := Tree.ofAlternatives (← since start) body
      if ← atEnd then
        fail .groupUnclosed opening
      bump
      modify fun cursor => { cursor with loose := outside }
      return .group (← since opening.start) number settings body

end

def pattern : Reader Tree := do
  let start ← here
  let body ← alternatives (3 * (← get).rest.length + 3)
  if !(← atEnd) then
    fail .groupUnopened (← charSpan)
  let tree := Tree.ofAlternatives (← since start) body
  match tree.tooDeep? 0 with
  | some span => fail (.nestingTooDeep nestingLimit) span
  | none => return tree

end Reader

def Tree.read (pattern : List Char) : Except Fault Tree :=
  (·.1) <$> Reader.pattern.run (.first pattern)

end SchemaShell.Regex
