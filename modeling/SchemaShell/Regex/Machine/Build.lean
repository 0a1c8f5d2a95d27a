import SchemaShell.Unicode.Ranges

/-!
# Building machines

An expression is searched for by a machine that goes through a text byte by byte. Here it is counted
how large the machine gets: each state takes a fixed number of bytes, and so does every link from a
state that has several. A machine that gets larger than the limit is not built.
-/

namespace SchemaShell.Regex.Machine

def stateBytes : Nat := 32

/-- The size of a link that leaves a fork for another state. -/
def linkBytes : Nat := 4

/-- The size of a link that is taken for a range of bytes. -/
def rangeBytes : Nat := 8

def limit : Nat := 10485760

/-- What has been built so far. -/
structure Tally where
  states : Nat := 0
  /-- The bytes of the links. -/
  links : Nat := 0

def Tally.bytes (tally : Tally) : Nat :=
  stateBytes * tally.states + tally.links

/-- Builds a part of a machine, and fails when the machine gets too large. -/
abbrev Build := StateT Tally Option

namespace Build

/-- Puts a new tally in place of the old one if it is within the limit. -/
def put (tally : Tally) : Build Unit := fun _ =>
  if tally.bytes ≤ limit then some ((), tally) else none

def state (links : Nat := 0) : Build Nat := do
  let tally ← get
  put ⟨tally.states + 1, tally.links + links⟩
  return tally.states

/-- A state from which each range of bytes leads to another one. -/
def branch (ranges : Nat) : Build Nat :=
  state (rangeBytes * ranges)

def links (count : Nat) : Build Unit := do
  let tally ← get
  put ⟨tally.states, tally.links + linkBytes * count⟩

def states : Nat → Build Unit
  | 0 => return
  | count + 1 => do
    let _ ← state
    states count

end Build

/-- Whether a machine goes through a text forwards or backwards. -/
inductive Direction where
  | forwards
  | backwards
  deriving DecidableEq, Repr

/-- Items in the order in which they are met. -/
def Direction.order {α : Type} (direction : Direction) (items : List α) : List α :=
  match direction with
  | forwards => items
  | backwards => items.reverse

end SchemaShell.Regex.Machine
