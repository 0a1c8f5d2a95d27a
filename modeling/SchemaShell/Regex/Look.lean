import SchemaShell.Unicode.Property.Grapheme
import SchemaShell.Unicode.Property.Letter

/-!
# Looks

What a regular expression may ask about a place in a text without taking a character: it is told by
the characters right before and right after the place.
-/

namespace SchemaShell.Regex

/-! ## Characters of words -/

/-- The characters that words are made of. -/
def wordSet : Unicode.Ranges :=
  Unicode.Ranges.unionAll [Unicode.Property.alphabetic, Unicode.Property.joinControl,
    Unicode.Category.rangesOf (Unicode.Category.marks ++ [.nd, .pc])]

def asciiWordSet : Unicode.Ranges :=
  [(0x30, 0x39), (0x41, 0x5A), (0x5F, 0x5F), (0x61, 0x7A)]

/-- Whether there is a character, and one of a word. -/
def isOfWord (ascii : Bool) (c : Option Char) : Bool :=
  c.any fun c => (if ascii then asciiWordSet else wordSet).has c.toNat

/-! ## Looks -/

/-- Where a place may lie with respect to a word. -/
inductive WordPlace where
  | boundary
  | notBoundary
  | start
  | finish
  /-- No word goes up to the place. -/
  | startHalf
  /-- No word goes on from the place. -/
  | finishHalf
  deriving DecidableEq, Repr

def WordPlace.holds (place : WordPlace) (before after : Bool) : Bool :=
  match place with
  | boundary => before != after
  | notBoundary => before == after
  | start => !before && after
  | finish => before && !after
  | startHalf => !before
  | finishHalf => !after

inductive Look where
  | textStart
  | textEnd
  /-- Lines end with a line feed. -/
  | lineStart
  | lineEnd
  /-- Lines end with a line feed, a carriage return or both, which are not separated. -/
  | anyLineStart
  | anyLineEnd
  | word (ascii : Bool) (place : WordPlace)
  deriving DecidableEq, Repr

/-- Whether a place is as asked for. -/
def Look.holds (look : Look) (before after : Option Char) : Bool :=
  match look with
  | textStart => before.isNone
  | textEnd => after.isNone
  | lineStart => before.all (· == '\n')
  | lineEnd => after.all (· == '\n')
  | anyLineStart => before.all (· == '\n') || (before == some '\r' && after != some '\n')
  | anyLineEnd => after.all (· == '\r') || (after == some '\n' && before != some '\r')
  | word ascii place => place.holds (isOfWord ascii before) (isOfWord ascii after)

end SchemaShell.Regex
