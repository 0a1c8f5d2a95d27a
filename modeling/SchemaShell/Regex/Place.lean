/-!
# Places in a pattern

A place lies before a character of a pattern, or at its end. Lines and columns are counted from 1,
and a span reaches from one place to another.
-/

namespace SchemaShell.Regex

structure Place where
  offset : Nat
  line : Nat
  column : Nat
  deriving DecidableEq, Repr

def Place.first : Place := ⟨0, 1, 1⟩

def Place.after (place : Place) (c : Char) : Place :=
  if c = '\n' then ⟨place.offset + 1, place.line + 1, 1⟩
  else ⟨place.offset + 1, place.line, place.column + 1⟩

structure Span where
  start : Place
  finish : Place
  deriving DecidableEq, Repr

namespace Span

def point (place : Place) : Span := ⟨place, place⟩

def isOneLine (span : Span) : Bool :=
  span.start.line == span.finish.line

/-- Whether a span comes first: the one that starts earlier, or of two the shorter. -/
def precedes (first second : Span) : Bool :=
  first.start.offset < second.start.offset ||
    (first.start.offset == second.start.offset && first.finish.offset ≤ second.finish.offset)

end Span

end SchemaShell.Regex
