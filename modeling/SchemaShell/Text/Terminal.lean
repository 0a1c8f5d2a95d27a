/-!
# Text without control sequences

What a terminal shows of a text that may hold control sequences. An escape starts a sequence; a
cancel or substitute character breaks it off. Of the other control characters only TAB, LF, FF and
CR are kept. Where one of them stands inside a short sequence, the text goes on after it as if the
sequence were over, until something that is not shown comes.
-/

namespace SchemaShell.Text

/-- How far a control sequence has been read. -/
inductive Sequence where
  | none
  /-- The escape, and then characters between the escape and the last one. -/
  | escape
  | intermediate
  /-- A sequence that a bracket starts and a letter or another late ASCII character ends. -/
  | bracket
  /-- The first part of a device control string: before, in and after its numbers. -/
  | deviceStart
  | deviceNumber
  | deviceIntermediate
  /-- A string that only a string terminator ends. -/
  | string
  /-- A command for the terminal, which a bell ends. -/
  | command
  deriving DecidableEq, Repr

namespace Sequence

def lies (low high : Nat) (c : Char) : Bool :=
  low ≤ c.toNat && c.toNat ≤ high

/-- Goes on with an ASCII character other than those that break a sequence off. -/
def next (sequence : Sequence) (c : Char) : Sequence :=
  match sequence with
  | none => .none
  | escape =>
    if lies 0x20 0x2F c then .intermediate
    else if c = '[' then .bracket
    else if c = ']' then .command
    else if c = 'P' then .deviceStart
    else if c = 'X' ∨ c = '^' ∨ c = '_' then .string
    else if lies 0x30 0x7E c then .none
    else .escape
  | intermediate => if lies 0x30 0x7E c then .none else .intermediate
  | bracket => if lies 0x40 0x7E c then .none else .bracket
  | deviceStart =>
    if lies 0x20 0x2F c then .deviceIntermediate
    else if lies 0x30 0x3F c then .deviceNumber
    else if lies 0x40 0x7E c then .string
    else .deviceStart
  | deviceNumber =>
    if lies 0x20 0x2F c then .deviceIntermediate
    else if lies 0x3C 0x7E c then .string
    else .deviceNumber
  | deviceIntermediate => if lies 0x30 0x7E c then .string else .deviceIntermediate
  | string => .string
  | command => if c = '\x07' then .none else .command

/-- Whether a kept control character inside the sequence is shown. -/
def showsLayout : Sequence → Bool
  | none | escape | intermediate | bracket => true
  | _ => false

/-- Goes on with a character outside ASCII. A string ends at the byte of the string terminator,
wherever that stands in the encoding. -/
def nextWide (sequence : Sequence) (c : Char) : Sequence :=
  if sequence = .string ∧ 0x9C ∈ (String.utf8EncodeChar c).map (·.toNat) then .none else sequence

end Sequence

def isLayout (c : Char) : Bool :=
  c == '\t' || c == '\n' || c == '\x0c' || c == '\r'

/-- Whether an ASCII character stands for itself outside of sequences. -/
def isPlain (c : Char) : Bool :=
  Sequence.lies 0x20 0x7E c || isLayout c

/-- What is shown of a text. `resumed` says that a kept control character has interrupted the
sequence. -/
def shownFrom (sequence : Sequence) (resumed : Bool) : List Char → List Char
  | [] => []
  | c :: rest =>
    if 0x80 ≤ c.toNat then
      if resumed || sequence == .none then c :: shownFrom .none false rest
      else shownFrom (sequence.nextWide c) false rest
    else if c = '\x1b' then shownFrom .escape false rest
    else if c = '\x18' ∨ c = '\x1a' then shownFrom .none false rest
    else if resumed || sequence == .none then
      if isPlain c then c :: shownFrom sequence resumed rest else shownFrom sequence false rest
    else if isLayout c && sequence.showsLayout then c :: shownFrom sequence true rest
    else shownFrom (sequence.next c) false rest

def shown (text : String) : String :=
  String.ofList (shownFrom .none false text.toList)

end SchemaShell.Text
