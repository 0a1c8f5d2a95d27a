import Std.Data.HashMap

/-!
# Small memories

A memory with a fixed number of slots. Each key has one slot, which is told by mixing its numbers,
and a slot holds what was put in last. So an entry is forgotten as soon as another key takes its
slot.
-/

namespace SchemaShell.Regex.Machine

/-- Mixes numbers into one of 64 bits. -/
def mixed (numbers : List Nat) : UInt64 :=
  numbers.foldl (fun hash number => (hash ^^^ number.toUInt64) * 1099511628211)
    14695981039346656037

structure Memory where
  slotCount : UInt64
  slots : Std.HashMap UInt64 (List Nat × Nat) := {}

namespace Memory

def slot (memory : Memory) (key : List Nat) : UInt64 :=
  mixed key % memory.slotCount

def find? (memory : Memory) (key : List Nat) : Option Nat :=
  match memory.slots[memory.slot key]? with
  | some (other, value) => if other = key then some value else none
  | none => none

def insert (memory : Memory) (key : List Nat) (value : Nat) : Memory :=
  { memory with slots := memory.slots.insert (memory.slot key) (key, value) }

end Memory

end SchemaShell.Regex.Machine
