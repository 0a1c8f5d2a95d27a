import SchemaShell.Regex.Fault
import SchemaShell.Regex.Tree
import SchemaShell.Text.WhiteSpace

/-!
# Readers of patterns

A reader goes through a pattern from left to right and either builds something or finds a fault.
Where the pattern is loose, white space and comments between its parts are skipped; a comment
reaches from a number sign to the end of the line.
-/

namespace SchemaShell.Regex

/-- How far a pattern has been read. -/
structure Cursor where
  rest : List Char
  place : Place
  /-- Whether blanks and comments are skipped. -/
  loose : Bool
  /-- The names of groups so far, and where they stand. -/
  names : List (List Char × Span)
  /-- The number of the next group that has one. -/
  nextGroup : Nat

namespace Cursor

def first (pattern : List Char) : Cursor :=
  ⟨pattern, .first, false, [], 1⟩

def bump (cursor : Cursor) : Cursor :=
  match cursor.rest with
  | [] => cursor
  | c :: rest => { cursor with rest, place := cursor.place.after c }

/-- What is left of a text after white space and comments. -/
def afterBlanks (inComment : Bool) (place : Place) : List Char → List Char × Place
  | [] => ([], place)
  | c :: rest =>
    if inComment then afterBlanks (c != '\n') (place.after c) rest
    else if Text.isWhiteSpace c then afterBlanks false (place.after c) rest
    else if c = '#' then afterBlanks true (place.after c) rest
    else (c :: rest, place)

/-- Goes past blanks and comments if the pattern is loose. -/
def skip (cursor : Cursor) : Cursor :=
  if cursor.loose then
    let (rest, place) := afterBlanks false cursor.place cursor.rest
    { cursor with rest, place }
  else
    cursor

def advance (cursor : Cursor) : Cursor :=
  cursor.bump.skip

/-- The character after the next one; in a loose pattern white space and one number sign do not
count. -/
def second? (cursor : Cursor) : Option Char :=
  let rest := cursor.rest.tail
  if cursor.loose then
    let blankless := rest.dropWhile Text.isWhiteSpace
    let signless :=
      if blankless.head? = some '#' then blankless.tail.dropWhile Text.isWhiteSpace else blankless
    signless.head?.or rest.head?
  else
    rest.head?

/-- Takes characters as long as they are wanted, in at most so many steps. -/
def takeWhile (wanted : Char → Bool) (step : Cursor → Cursor) :
    Nat → Cursor → List Char × Cursor
  | 0, cursor => ([], cursor)
  | steps + 1, cursor =>
    match cursor.rest with
    | [] => ([], cursor)
    | c :: _ =>
      if wanted c then
        let (text, after) := takeWhile wanted step steps (step cursor)
        (c :: text, after)
      else
        ([], cursor)

end Cursor

abbrev Reader := StateT Cursor (Except Fault)

namespace Reader

def fail {α : Type} (cause : Cause) (span : Span) (earlier : Option Span := none) : Reader α :=
  throw ⟨cause, span, earlier⟩

def peek? : Reader (Option Char) :=
  return (← get).rest.head?

def atEnd : Reader Bool :=
  return (← get).rest.isEmpty

def here : Reader Place :=
  return (← get).place

def hereSpan : Reader Span :=
  return .point (← here)

def since (start : Place) : Reader Span :=
  return ⟨start, ← here⟩

def charSpan : Reader Span :=
  return ⟨← here, (← get).bump.place⟩

def bump : Reader Unit :=
  modify Cursor.bump

def skip : Reader Unit :=
  modify Cursor.skip

def advance : Reader Unit :=
  modify Cursor.advance

def takeWhile (wanted : Char → Bool) (step : Cursor → Cursor) : Reader (List Char) :=
  modifyGet fun cursor => cursor.takeWhile wanted step cursor.rest.length

/-- Goes past a text if it comes next, and tells whether it did. -/
def accept (text : String) : Reader Bool := do
  if text.toList.isPrefixOf (← get).rest then
    modify fun cursor => text.toList.foldl (fun cursor _ => cursor.bump) cursor
    return true
  else
    return false

end Reader

end SchemaShell.Regex
