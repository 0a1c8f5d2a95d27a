/-!
# Ranges of code points

Sets of characters are closed ranges of code points, in ascending order and apart from each other.
The search for a code point stops at the first range that starts after it. The code points of the
surrogates are no characters: the character after U+D7FF is U+E000.
-/

namespace SchemaShell.Unicode

/-- Closed ranges in ascending order. -/
abbrev Ranges := List (Nat × Nat)

namespace Ranges

/-- Whether a code point lies in one of the ranges. -/
def has : Ranges → Nat → Bool
  | [], _ => false
  | (low, high) :: rest, code => low ≤ code && (code ≤ high || has rest code)

@[simp] theorem has_nil (code : Nat) : has [] code = false := rfl

@[simp] theorem has_cons (range : Nat × Nat) (rest : Ranges) (code : Nat) :
    has (range :: rest) code =
      (decide (range.1 ≤ code) && (decide (code ≤ range.2) || has rest code)) := rfl

/-! ## Building sets -/

/-- Goes on from a range through ranges that start no earlier, and makes one of those that overlap
or touch. -/
def joinFrom (low high : Nat) : Ranges → Ranges
  | [] => [(low, high)]
  | next :: rest =>
    if next.1 ≤ high + 1 then joinFrom low (max high next.2) rest
    else (low, high) :: joinFrom next.1 next.2 rest

/-- The set of ranges that are sorted by their starts. -/
def join : Ranges → Ranges
  | [] => []
  | first :: rest => joinFrom first.1 first.2 rest

/-- Pairs of both rows, each sorted by its first parts, in one such row. -/
def merge : List (Nat × Nat) → List (Nat × Nat) → List (Nat × Nat)
  | [], others => others
  | pair :: pairs, others =>
    let earlier := others.takeWhile (·.1 < pair.1)
    earlier ++ pair :: merge pairs (others.drop earlier.length)

def sort (pairs : List (Nat × Nat)) : List (Nat × Nat) :=
  pairs.foldr (fun pair sorted => merge [pair] sorted) []

/-- The set of ranges in any order. -/
def ofList (ranges : List (Nat × Nat)) : Ranges :=
  join (sort ranges)

def union (first second : Ranges) : Ranges :=
  join (merge first second)

def unionAll (sets : List Ranges) : Ranges :=
  sets.foldl union []

def ofCodes (codes : List Nat) : Ranges :=
  ofList (codes.map fun code => (code, code))

def single (code : Nat) : Ranges :=
  [(code, code)]

def single? : Ranges → Option Nat
  | [(low, high)] => if low = high then some low else none
  | _ => none

def full : Ranges :=
  [(0, 0x10FFFF)]

def ascii : Ranges :=
  [(0, 0x7F)]

/-! ## Operations -/

def next (code : Nat) : Nat :=
  if code = 0xD7FF then 0xE000 else code + 1

def previous (code : Nat) : Nat :=
  if code = 0xE000 then 0xD7FF else code - 1

/-- The range between two characters, whichever of them comes first. -/
def between (first second : Nat) : Nat × Nat :=
  (min first second, max first second)

def gapsAfter (high : Nat) : Ranges → Ranges
  | [] => if high < 0x10FFFF then [(next high, 0x10FFFF)] else []
  | (low, otherHigh) :: rest => between (next high) (previous low) :: gapsAfter otherHigh rest

/-- All other characters. There is a gap wherever one range ends and another starts: if just the
surrogates lie between them, the gap is made of the two characters beside these. -/
def complement : Ranges → Ranges
  | [] => full
  | (low, high) :: rest =>
    if 0 < low then (0, previous low) :: gapsAfter high rest else gapsAfter high rest

def inter : Ranges → Ranges → Ranges
  | (low, high) :: rest, (otherLow, otherHigh) :: others =>
    let common :=
      if max low otherLow ≤ min high otherHigh then [(max low otherLow, min high otherHigh)]
      else []
    if high < otherHigh then common ++ inter rest ((otherLow, otherHigh) :: others)
    else common ++ inter ((low, high) :: rest) others
  | _, _ => []
termination_by first second => first.length + second.length

def diff : Ranges → Ranges → Ranges
  | (low, high) :: rest, (otherLow, otherHigh) :: others =>
    if otherHigh < low then diff ((low, high) :: rest) others
    else if high < otherLow then (low, high) :: diff rest ((otherLow, otherHigh) :: others)
    else
      let before := if low < otherLow then [(low, previous otherLow)] else []
      if otherHigh < high then before ++ diff ((next otherHigh, high) :: rest) others
      else before ++ diff rest ((otherLow, otherHigh) :: others)
  | first, _ => first
termination_by first second => first.length + second.length

def symmDiff (first second : Ranges) : Ranges :=
  (first.union second).diff (first.inter second)

end Ranges

/-- A set with the names by which it is looked up. -/
structure NamedRanges where
  names : List String
  ranges : Ranges
  deriving DecidableEq, Repr

/-- The set of a table that has a name. -/
def NamedRanges.find? (table : List NamedRanges) (name : String) : Option Ranges :=
  (table.find? (·.names.contains name)).map (·.ranges)

end SchemaShell.Unicode
