import SchemaShell.Regex.Reader.Basic

/-!
# Escapes

What a backslash and the characters after it stand for. Letters and digits stand for themselves
only without a backslash, all other ASCII characters with and without one, angle brackets excepted.
-/

namespace SchemaShell.Regex

/-! ## Characters by number -/

def isHexDigit (c : Char) : Bool :=
  c.isDigit || ('a' ≤ c && c ≤ 'f') || ('A' ≤ c && c ≤ 'F')

def hexDigitValue (c : Char) : Nat :=
  if c.isDigit then c.toNat - '0'.toNat else c.toUpper.toNat - 'A'.toNat + 10

/-- The character whose number is written in hexadecimal digits. -/
def charOfHex? (digits : List Char) : Option Char :=
  let code := digits.foldl (fun value c => 16 * value + hexDigitValue c) 0
  if code < 0xD800 ∨ 0xDFFF < code ∧ code < 0x110000 then some (Char.ofNat code) else none

/-! ## Names of classes -/

/-- The parts of a text before and after a mark, if the mark stands in it. -/
def splitOnce (mark : List Char) : List Char → Option (List Char × List Char)
  | [] => none
  | c :: rest =>
    if mark.isPrefixOf (c :: rest) then some ([], (c :: rest).drop mark.length)
    else (splitOnce mark rest).map fun (before, after) => (c :: before, after)

/-- The name of a class as it is written between braces, and whether all other characters are
meant. -/
def ClassName.ofText (text : List Char) : Bool × ClassName :=
  match splitOnce ['!', '='] text, (splitOnce [':'] text).or (splitOnce ['='] text) with
  | some (property, value), _ => (true, .valued property value)
  | none, some (property, value) => (false, .valued property value)
  | none, none => (false, .single text)

/-! ## Letters -/

def LetterClass.ofLetter? : Char → Option LetterClass
  | 'd' | 'D' => some digit
  | 's' | 'S' => some space
  | 'w' | 'W' => some word
  | _ => none

def isEscapable (c : Char) : Bool :=
  c.toNat < 0x80 && !c.isAlphanum && c != '<' && c != '>'

/-- The control character that a letter stands for. -/
def controlOfLetter? : Char → Option Char
  | 'a' => some '\x07'
  | 'f' => some '\x0c'
  | 't' => some '\t'
  | 'n' => some '\n'
  | 'r' => some '\r'
  | 'v' => some '\x0b'
  | _ => none

def Assertion.ofLetter? : Char → Option Assertion
  | 'A' => some textStart
  | 'z' => some textEnd
  | 'b' => some wordBoundary
  | 'B' => some notWordBoundary
  | '<' => some wordStart
  | '>' => some wordEnd
  | _ => none

/-- The assertion about words that a name between braces stands for. -/
def Assertion.ofName? (name : List Char) : Option Assertion :=
  match String.ofList name with
  | "start" => some wordStart
  | "end" => some wordEnd
  | "start-half" => some wordStartHalf
  | "end-half" => some wordEndHalf
  | _ => none

def isNameOfBoundary (c : Char) : Bool :=
  c.isAlpha || c == '-'

namespace Reader

def hexDigits : Nat → Reader (List Char)
  | 0 => return []
  | count + 1 => do
    match ← peek? with
    | none => fail .escapeUnexpectedEnd (← hereSpan)
    | some c =>
      if isHexDigit c then
        advance
        return c :: (← hexDigits count)
      else
        fail .escapeHexInvalidDigit (← charSpan)

/-- A character by a fixed number of digits; two of them write a byte. -/
def fixedHex (start : Place) (count : Nat) : Reader Literal := do
  let first ← here
  let digits ← hexDigits count
  match charOfHex? digits with
  | some char => return ⟨← since start, char, count == 2⟩
  | none => fail .escapeHexInvalid (← since first)

/-- A character by digits between braces. -/
def bracedHex (start : Place) : Reader Literal := do
  let brace ← here
  let first := (← charSpan).finish
  advance
  let digits ← takeWhile isHexDigit Cursor.advance
  match ← peek? with
  | none => fail .escapeUnexpectedEnd (← since brace)
  | some c =>
    if c ≠ '\x7d' then
      fail .escapeHexInvalidDigit (← charSpan)
    let last ← here
    advance
    if digits = [] then
      fail .escapeHexEmpty (← since brace)
    match charOfHex? digits with
    | some char => return ⟨← since start, char, false⟩
    | none => fail .escapeHexInvalid ⟨first, last⟩

/-- A character by its number, after a letter that tells how many digits there are. -/
def hexEscape (start : Place) (letter : Char) : Reader Literal := do
  advance
  match ← peek? with
  | none => fail .escapeUnexpectedEnd (← hereSpan)
  | some '\x7b' => bracedHex start
  | some _ => fixedHex start (if letter = 'x' then 2 else if letter = 'u' then 4 else 8)

/-- A class of Unicode, by one letter or by a name between braces. -/
def propertyEscape (start : Place) (letter : Char) : Reader Primitive := do
  advance
  match ← peek? with
  | none => fail .escapeUnexpectedEnd (← hereSpan)
  | some '\x7b' =>
    advance
    let text ← takeWhile (· ≠ '\x7d') Cursor.advance
    if ← atEnd then
      fail .escapeUnexpectedEnd (← hereSpan)
    bump
    let (others, name) := ClassName.ofText text
    return .property (← since start) ((letter == 'P') != others) name
  | some '\\' => fail .propertyInvalid (← charSpan)
  | some c =>
    advance
    return .property (← since start) (letter == 'P') (.single [c])

/-- An assertion about words between braces. Where no name can follow, the brace is left to be read
as the start of a repetition. -/
def wordBoundary (start : Place) (span : Span) : Reader Primitive := do
  let before ← get
  let brace ← here
  advance
  match ← peek? with
  | none => fail .wordBoundaryUnexpectedEnd (← since start)
  | some c =>
    if isNameOfBoundary c then
      let first ← here
      let name ← takeWhile isNameOfBoundary Cursor.advance
      if (← peek?) ≠ some '\x7d' then
        fail .wordBoundaryUnclosed (← since brace)
      let last ← here
      bump
      match Assertion.ofName? name with
      | some assertion => return .assertion (← since start) assertion
      | none => fail .wordBoundaryUnrecognized ⟨first, last⟩
    else
      set before
      return .assertion span .wordBoundary

/-- What a single character after the backslash stands for. -/
def shortEscape (start : Place) (c : Char) : Reader Primitive := do
  bump
  let span ← since start
  match LetterClass.ofLetter? c, controlOfLetter? c, Assertion.ofLetter? c with
  | some cls, _, _ => return .letterClass span c.isUpper cls
  | _, some char, _ => return .literal ⟨span, char, false⟩
  | _, _, some assertion =>
    if c = 'b' ∧ (← peek?) = some '\x7b' then wordBoundary start span
    else return .assertion span assertion
  | _, _, _ =>
    if isEscapable c then return .literal ⟨span, c, false⟩ else fail .escapeUnrecognized span

def escape : Reader Primitive := do
  let start ← here
  bump
  match ← peek? with
  | none => fail .escapeUnexpectedEnd (← since start)
  | some c =>
    if c.isDigit then fail .backreference ⟨start, (← charSpan).finish⟩
    else if c = 'x' ∨ c = 'u' ∨ c = 'U' then return .literal (← hexEscape start c)
    else if c = 'p' ∨ c = 'P' then propertyEscape start c
    else shortEscape start c

def verbatim (c : Char) : Reader Literal := do
  let span ← charSpan
  bump
  return ⟨span, c, false⟩

end Reader

end SchemaShell.Regex
