import SchemaShell.Text.Bytes
import SchemaShell.Text.WhiteSpace

/-!
# Input

An input is a row of bytes and what comes after them: the end, or faults of the device and then the
end. It is read line by line, and each line is received in one of three ways: as a text, as blank,
or as no text at all, because its bytes are not UTF-8.
-/

namespace SchemaShell.Console

/-! ## Faults -/

/-- The kinds a console tells apart. An interrupted reading is none of them: the reader takes it up
again by itself. -/
inductive ErrorKind where
  | invalidData
  | other
  deriving DecidableEq, Repr

/-- What a device says when it fails. -/
structure DeviceError where
  kind : ErrorKind
  text : String
  deriving DecidableEq, Repr

/-- A text by itself tells an error of no particular kind. -/
instance : Coe String DeviceError where
  coe text := ⟨.other, text⟩

inductive Fault where
  | notText
  | unreadable (error : DeviceError)
  | unwritable (reason : String)
  deriving DecidableEq, Repr

def Fault.message : Fault → String
  | notText => "stream did not contain valid UTF-8"
  | unreadable error => error.text
  | unwritable reason => reason

def Fault.kind : Fault → ErrorKind
  | notText => .invalidData
  | unreadable error => error.kind
  | unwritable _ => .other

/-! ## Lines -/

def lineFeed : UInt8 := 10

/-- The bytes up to and including the first line feed, and the bytes after it. -/
def cutLine : List UInt8 → List UInt8 × List UInt8
  | [] => ([], [])
  | byte :: bytes =>
    if byte = lineFeed then ([byte], bytes)
    else
      let (line, rest) := cutLine bytes
      (byte :: line, rest)

theorem append_cutLine (bytes : List UInt8) : (cutLine bytes).1 ++ (cutLine bytes).2 = bytes := by
  induction bytes with
  | nil => rfl
  | cons byte bytes ih =>
    rw [cutLine]
    split
    · rfl
    · exact congrArg (byte :: ·) ih

theorem cutLine_ne_nil {bytes : List UInt8} (h : bytes ≠ []) : (cutLine bytes).1 ≠ [] := by
  cases bytes with
  | nil => contradiction
  | cons byte bytes =>
    rw [cutLine]
    split <;> simp

/-! ## What is received -/

inductive Received where
  | line (text : String)
  | blank
  | notText
  | finished
  | failed (fault : Fault)
  deriving DecidableEq, Repr

def isLineEnd (c : Char) : Bool :=
  c == '\n' || c == '\r'

/-- Takes all line feeds and carriage returns off the end. -/
def withoutLineEnd (text : List Char) : List Char :=
  (text.reverse.dropWhile isLineEnd).reverse

def Received.ofText (text : String) : Received :=
  if text.toList.all Text.isWhiteSpace then blank
  else line (String.ofList (withoutLineEnd text.toList))

def Received.ofLine (line : List UInt8) : Received :=
  match Text.ofBytes? line with
  | none => notText
  | some text => ofText text

/-- What the user is told about a line that cannot be used. -/
def Received.complaint? : Received → Option String
  | line _ | finished => none
  | blank => some "Error reading the input. Try again."
  | notText => some ("Failed to read line: " ++ Fault.notText.message)
  | failed fault => some ("Failed to read line: " ++ fault.message)

/-- Nobody reads on after the end, nor after a failure that is not of the kind of a line that is no
text. -/
def Received.isLast : Received → Bool
  | finished => true
  | failed fault => fault.kind ≠ .invalidData
  | line _ | blank | notText => false

/-! ## Reading -/

/-- The faults of a device, one for each reading. -/
structure Failure where
  first : Fault
  later : List Fault

namespace Failure

/-- A device that fails once. -/
def unreadable (error : DeviceError) : Failure :=
  ⟨.unreadable error, []⟩

def ofFaults? : List Fault → Option Failure
  | [] => none
  | first :: later => some ⟨first, later⟩

end Failure

structure Input where
  bytes : List UInt8
  /-- How the device fails in place of the end. That says nothing about the bytes. -/
  failure? : Option Failure

namespace Input

def faults (input : Input) : List Fault :=
  match input.failure? with
  | none => []
  | some failure => failure.first :: failure.later

/-- Whether the device fails before the end of this line is seen. -/
def breaksOff (input : Input) (line : List UInt8) : Bool :=
  input.failure?.isSome && line.getLast? != some lineFeed

/-- What is received where no line is left. -/
def readEnd (input : Input) : Received × Input :=
  match input.failure? with
  | none => (.finished, ⟨[], none⟩)
  | some failure => (.failed failure.first, ⟨[], Failure.ofFaults? failure.later⟩)

/-- Takes one line off the front. A line that breaks off is lost. -/
def read (input : Input) : Received × Input :=
  let (line, rest) := cutLine input.bytes
  if line = [] ∨ input.breaksOff line then input.readEnd
  else (.ofLine line, { input with bytes := rest })

/-- What is received in at most so many readings, and in one more. -/
def readAll : Nat → Input → List Received
  | 0, input => [input.readEnd.1]
  | limit + 1, input =>
    let (received, after) := input.read
    if received.isLast then [received] else received :: readAll limit after

def received (input : Input) : List Received :=
  readAll (input.bytes.length + input.faults.length) input

end Input

end SchemaShell.Console
