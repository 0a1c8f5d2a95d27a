import SchemaShell.Regex.Place
import SchemaShell.Text.Lines
import SchemaShell.Text.Numeral

/-!
# Faults of a pattern

Why a text is no pattern, and where in it the reason stands. The message shows the pattern with the
place marked; a pattern of more than one line is shown with numbered lines between two rules.
-/

namespace SchemaShell.Regex

inductive Cause where
  | classEscapeInvalid
  | classRangeInvalid
  | classRangeLiteral
  | classUnclosed
  | decimalInvalid
  | escapeHexEmpty
  | escapeHexInvalid
  | escapeHexInvalidDigit
  | escapeUnexpectedEnd
  | escapeUnrecognized
  | flagDanglingNegation
  | flagDuplicate
  | flagRepeatedNegation
  | flagUnexpectedEnd
  | flagUnrecognized
  | groupNameDuplicate
  | groupNameEmpty
  | groupNameInvalid
  | groupNameUnexpectedEnd
  | groupUnclosed
  | groupUnopened
  | nestingTooDeep (limit : Nat)
  | repetitionCountInvalid
  | repetitionCountEmpty
  | repetitionCountUnclosed
  | repetitionMissing
  | wordBoundaryUnclosed
  | wordBoundaryUnrecognized
  | wordBoundaryUnexpectedEnd
  | propertyInvalid
  | backreference
  | lookAround
  | unicodeNotAllowed
  | invalidBytes
  | propertyNotFound
  | propertyValueNotFound
  deriving DecidableEq, Repr

def Cause.message : Cause → String
  | classEscapeInvalid => "invalid escape sequence found in character class"
  | classRangeInvalid => "invalid character class range, the start must be <= the end"
  | classRangeLiteral => "invalid range boundary, must be a literal"
  | classUnclosed => "unclosed character class"
  | decimalInvalid => "decimal literal invalid"
  | escapeHexEmpty => "hexadecimal literal empty"
  | escapeHexInvalid => "hexadecimal literal is not a Unicode scalar value"
  | escapeHexInvalidDigit => "invalid hexadecimal digit"
  | escapeUnexpectedEnd => "incomplete escape sequence, reached end of pattern prematurely"
  | escapeUnrecognized => "unrecognized escape sequence"
  | flagDanglingNegation => "dangling flag negation operator"
  | flagDuplicate => "duplicate flag"
  | flagRepeatedNegation => "flag negation operator repeated"
  | flagUnexpectedEnd => "expected flag but got end of regex"
  | flagUnrecognized => "unrecognized flag"
  | groupNameDuplicate => "duplicate capture group name"
  | groupNameEmpty => "empty capture group name"
  | groupNameInvalid => "invalid capture group character"
  | groupNameUnexpectedEnd => "unclosed capture group name"
  | groupUnclosed => "unclosed group"
  | groupUnopened => "unopened group"
  | nestingTooDeep limit =>
    "exceed the maximum number of nested parentheses/brackets (" ++ Text.decimal limit ++ ")"
  | repetitionCountInvalid => "invalid repetition count range, the start must be <= the end"
  | repetitionCountEmpty => "repetition quantifier expects a valid decimal"
  | repetitionCountUnclosed => "unclosed counted repetition"
  | repetitionMissing => "repetition operator missing expression"
  | wordBoundaryUnclosed =>
    "special word boundary assertion is either unclosed or contains an invalid character"
  | wordBoundaryUnrecognized =>
    "unrecognized special word boundary assertion, valid choices are: " ++
      "start, end, start-half or end-half"
  | wordBoundaryUnexpectedEnd =>
    "found either the beginning of a special word boundary or a bounded repetition on a \\b " ++
      "with an opening brace, but no closing brace"
  | propertyInvalid => "invalid Unicode character class"
  | backreference => "backreferences are not supported"
  | lookAround => "look-around, including look-ahead and look-behind, is not supported"
  | unicodeNotAllowed => "Unicode not allowed here"
  | invalidBytes => "pattern can match invalid UTF-8"
  | propertyNotFound => "Unicode property not found"
  | propertyValueNotFound => "Unicode property value not found"

structure Fault where
  cause : Cause
  span : Span
  /-- What stands earlier in the pattern and is in conflict with the span. -/
  earlier : Option Span := none
  deriving DecidableEq, Repr

/-! ## The marked pattern -/

def blanks (count : Nat) : List Char :=
  List.replicate count ' '

/-- Marks below a line from a column on, for spans that lie in the line one after the other. -/
def marksFrom (column : Nat) : List Span → List Char
  | [] => []
  | span :: spans =>
    let width := max 1 (span.finish.column - span.start.column)
    blanks (span.start.column - column) ++ List.replicate width '^' ++
      marksFrom (max column span.start.column + width) spans

namespace Fault

def spans (fault : Fault) : List Span :=
  (fault.span :: fault.earlier.toList).mergeSort Span.precedes

/-- The number of lines that a span may lie in. -/
def lineCount (pattern : List Char) : Nat :=
  (Text.lines pattern).length + if pattern.getLast? = some '\n' then 1 else 0

/-- How many digits the greatest line number has; a pattern of one line gets no numbers. -/
def numberWidth (pattern : List Char) : Nat :=
  if lineCount pattern ≤ 1 then 0 else (Text.decimal (lineCount pattern)).length

def lineHead (width number : Nat) : List Char :=
  if width = 0 then blanks 4
  else
    let digits := (Text.decimal number).toList
    blanks (width - digits.length) ++ digits ++ ": ".toList

/-- A line of the pattern, and the marks below it if there are any. -/
def markedLine (fault : Fault) (width number : Nat) (line : List Char) : List (List Char) :=
  let here := fault.spans.filter fun span => span.isOneLine && span.start.line == number
  let margin := if width = 0 then 4 else width + 2
  (lineHead width number ++ line) ::
    if here = [] then [] else [blanks margin ++ marksFrom 1 here]

def markedLines (fault : Fault) (width number : Nat) : List (List Char) → List (List Char)
  | [] => []
  | line :: lines =>
    fault.markedLine width number line ++ fault.markedLines width (number + 1) lines

/-- A line that tells where a span of several lines lies. -/
def lineNote (span : Span) : List Char :=
  ("on line " ++ Text.decimal span.start.line ++ " (column " ++ Text.decimal span.start.column ++
    ") through line " ++ Text.decimal span.finish.line ++ " (column " ++
    Text.decimal (span.finish.column - 1) ++ ")").toList

def rule : List Char :=
  List.replicate 79 '~'

def messageLines (fault : Fault) (pattern : List Char) : List (List Char) :=
  let marked := fault.markedLines (numberWidth pattern) 1 (Text.lines pattern)
  let notes := (fault.spans.filter (!·.isOneLine)).map lineNote
  "regex parse error:".toList ::
    (if pattern.contains '\n' then rule :: marked ++ rule :: notes else marked) ++
    [("error: " ++ fault.cause.message).toList]

def message (fault : Fault) (pattern : List Char) : String :=
  String.ofList (['\n'].intercalate (fault.messageLines pattern))

end Fault

end SchemaShell.Regex
