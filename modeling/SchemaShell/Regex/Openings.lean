import SchemaShell.Regex.Basic
import SchemaShell.Regex.Machine.Encoding
import SchemaShell.Text.Bytes

/-!
# Openings

The texts that the matches of an expression start with, those of preferred matches first. They are
collected only as far as they are few and short. An expression that stands for few texts is searched
for as these texts.
-/

namespace SchemaShell.Regex

/-- A text that a match starts with, in bytes. -/
structure Opening where
  bytes : List Nat
  /-- Whether the text is the match. -/
  whole : Bool
  deriving DecidableEq, Repr

namespace Opening

def ofText (text : List Char) : Opening :=
  ⟨text.flatMap fun c => Machine.utf8 c.toNat, true⟩

/-- The text of an opening that does not end within a character. -/
def text? (opening : Opening) : Option (List Char) :=
  (Text.ofBytes? (opening.bytes.map Nat.toUInt8)).map String.toList

/-- The opening of a match that goes on. -/
def leaveOpen (opening : Opening) : Opening :=
  { opening with whole := false }

/-- At most so many bytes of an opening. -/
def shorten (length : Nat) (opening : Opening) : Opening :=
  if opening.bytes.length ≤ length then opening else ⟨opening.bytes.take length, false⟩

/-- The openings of what starts with an opening and goes on with other ones. -/
def followedBy (opening : Opening) (others : List Opening) : List Opening :=
  if opening.whole then others.map fun other => ⟨opening.bytes ++ other.bytes, other.whole⟩
  else [opening]

/-- Makes one of neighbours with the same bytes, which is whole if all of them are. -/
def mergeEqual (openings : List Opening) : List Opening :=
  (openings.splitBy fun first second => first.bytes == second.bytes).filterMap fun equal =>
    equal.head?.map fun opening => { opening with whole := equal.all (·.whole) }

end Opening

/-! ## Collecting -/

/-- The openings of an expression; `none` if they are too many, or if any text is one. -/
abbrev Openings := Option (List Opening)

namespace Openings

/-- The number of openings that there may be. -/
def most : Nat := 250

/-- The number of bytes that an opening may have. -/
def longest : Nat := 100

/-- The number of characters that a set may have, and of copies of a repetition that are looked
at. -/
def few : Nat := 10

def start : Openings :=
  some [⟨[], true⟩]

def leaveOpen (openings : Openings) : Openings :=
  openings.map fun openings => openings.map Opening.leaveOpen

/-- Whether no opening can get longer. -/
def settled : Openings → Bool
  | none => true
  | some openings => openings.all (!·.whole)

def andThen (first second : Openings) : Openings :=
  match first with
  | none => none
  | some first =>
    match second.filter fun second => first.length * second.length ≤ most with
    | some second =>
      some ((Opening.mergeEqual (first.flatMap (·.followedBy second))).map (·.shorten longest))
    | none =>
      if first.any (·.bytes.isEmpty) then none else some (first.map Opening.leaveOpen)

/-- The openings of parts in a row, up to the part from which on they stay the same. -/
def inARow (openings : Openings) : List Openings → Openings
  | [] => openings
  | next :: parts =>
    if openings.settled then openings else inARow (openings.andThen next) parts

/-- The openings of two ways, of which only the first bytes are kept if that makes them fit. -/
def orElse (first second : Openings) : Openings := do
  let fit (first second : List Opening) : Bool := first.length + second.length ≤ most
  let first ← first
  let second ← second
  if fit first second then
    return Opening.mergeEqual (first ++ second)
  let first := Opening.mergeEqual (first.map (·.shorten 4))
  let second := Opening.mergeEqual (second.map (·.shorten 4))
  if fit first second then
    return Opening.mergeEqual (first ++ second)
  none

def ofSet (set : Unicode.Ranges) : Openings :=
  let count := set.foldl (fun count range => count + (range.2 + 1 - range.1)) 0
  if count ≤ few then
    some (set.flatMap fun (low, high) =>
      (List.range' low (high + 1 - low)).map fun code => .ofText [Char.ofNat code])
  else
    none

def repeated (least : Nat) (most : Option Nat) (greedy : Bool) (body : Openings) : Openings :=
  if least = 0 then
    let body := if most = some 1 then body else body.leaveOpen
    if greedy then body.orElse start else start.orElse body
  else
    let copies := inARow start (.replicate (min least few) body)
    if most = some least ∧ least ≤ few then copies else copies.leaveOpen

end Openings

def openings (regex : Regex) : Openings :=
  match regex with
  | .empty | .condition _ => .start
  | .literal text => some [(Opening.ofText text).shorten Openings.longest]
  | .step _ set => .ofSet set
  | .captured _ body => body.openings
  | .repeated least most greedy body => .repeated least most greedy body.openings
  | .andThen first rest =>
    .inARow .start ((first :: rest.parts).attach.map fun part =>
      have := sizeOf_lt_of_mem_andThen part.2
      part.1.openings)
  | .orElse first others =>
    ((first :: others.ways).attach.map fun way =>
      have := sizeOf_lt_of_mem_orElse way.2
      way.1.openings).foldl Openings.orElse (some [])
termination_by sizeOf regex

/-! ## Choosing what to search for -/

/-- The bytes that are frequent in texts. -/
def frequentBytes : Unicode.Ranges :=
  [(0x0A, 0x0A), (0x0D, 0x0D), (0x20, 0x20), (0x28, 0x29), (0x2C, 0x32), (0x39, 0x3A), (0x5F, 0x5F),
    (0x61, 0x69), (0x6C, 0x70), (0x72, 0x76), (0x78, 0x79), (0x7C, 0x7C), (0x80, 0x84),
    (0x90, 0x90), (0xB1, 0xB1), (0xB5, 0xB7), (0xB9, 0xBD), (0xBF, 0xFF)]

namespace Opening

/-- Leaves out what starts with an earlier opening, which is preferred to it. -/
def leaveOutLonger (openings : List Opening) : List Opening :=
  openings.foldl (fun kept next =>
    if kept.any (·.bytes.isPrefixOf next.bytes) then kept else kept ++ [next]) []

/-- What all openings start with. -/
def commonBytes (openings : List Opening) : List Nat :=
  match openings.map (·.bytes) with
  | [] => []
  | first :: others => others.foldl commonStart first

/-- Lengths to which openings are cut, each with the number of openings that need not be cut. -/
def cuts : List (Nat × Nat) :=
  [(5, 10), (4, 10), (3, 64), (2, 64), (1, 10)]

/-- Cuts openings as long as there are too many of them. -/
def cutAll : List (Nat × Nat) → List Opening → List Opening
  | [], openings => openings
  | (length, enough) :: cuts, openings =>
    if openings.length ≤ enough then openings
    else cutAll cuts (leaveOutLonger (openings.map (·.shorten length)))

/-- The openings that are kept because of what they all start with. A long start is enough by
itself, and so is one of two bytes if the openings are too many or not whole. -/
def keepStart (openings : List Opening) : List Opening :=
  let length := (commonBytes openings).length
  let few := openings.all (·.whole) && openings.length ≤ 16
  if 4 < length ∨ (1 < length ∧ !few) then mergeEqual (openings.map (·.shorten length))
  else openings

/-- What is searched for to find matches with given openings. If several of them start with the
same rare byte and with little more, this is their first byte. Otherwise they are cut, unless whole
openings would get too short or stay too many. -/
def sought (openings : List Opening) : List Opening :=
  let kept := leaveOutLonger openings
  let start := commonBytes kept
  if 1 < openings.length ∧ start.length ≤ 3 ∧ start.head?.any (!frequentBytes.has ·) then
    mergeEqual (kept.map (·.shorten 1))
  else
    let kept := keepStart kept
    let shorter := cutAll cuts kept
    if kept.all (·.whole) ∧ (64 < shorter.length ∨ shorter.any (·.bytes.length ≤ 2)) then kept
    else shorter

end Opening

/-! ## Few texts -/

/-- Whether an expression has no groups and asks nothing about places. -/
def isPlain : Regex → Bool
  | empty | literal _ | step .. => true
  | condition _ | captured .. => false
  | repeated _ _ _ body => body.isPlain
  | andThen first rest | orElse first rest => first.isPlain && rest.isPlain

/-- The texts that an expression is searched for as, if it stands for few texts. -/
def fewTexts? (regex : Regex) : Option (List (List Char)) :=
  match Openings.orElse (some []) regex.openings with
  | none | some [] => none
  | some openings =>
    let sought := Opening.sought openings
    if regex.isPlain && openings.all (!·.bytes.isEmpty) && sought.all (·.whole) then
      sought.mapM (·.text?)
    else
      none

end SchemaShell.Regex
