import SchemaShell.Regex.Machine.Build
import SchemaShell.Regex.Machine.Encoding
import SchemaShell.Regex.Machine.Memory

/-!
# Machines for one character

The machine that takes one character of a set. Within ASCII a state with a link for each range is
enough. Otherwise the machine takes the bytes of the encodings of the set. Forwards, encodings that
start alike share the states at the start, and a state that is the same as one that is still
remembered is not built again. Backwards, every encoding has a link of its own, and encodings whose
first bytes are the same share the states of these.
-/

namespace SchemaShell.Regex.Machine

def asciiStep (set : Unicode.Ranges) : Build Unit := do
  let _ ← Build.state
  let _ ← Build.branch set.length

/-! ## Forwards -/

/-- The rows of encodings that start with the same range, next to each other. -/
def byFirst (rows : List (List ByteRange)) : List (List (List ByteRange)) :=
  rows.splitBy fun row next => row.head? == next.head?

/-- A state with links for ranges, or one that was built before. -/
def sharedBranch (links : List (ByteRange × Nat)) : StateT Memory Build Nat := do
  let key := links.flatMap fun ((low, high), target) => [low, high, target]
  match (← get).find? key with
  | some state => return state
  | none =>
    let state ← Build.branch links.length
    modify (·.insert key state)
    return state

/-- The state from which rows of at most so many ranges are taken, up to a last state. -/
def forwardState (last : Nat) : Nat → List (List ByteRange) → StateT Memory Build Nat
  | 0, _ => return last
  | length + 1, rows => do
    let links ← (byFirst rows).mapM fun group => do
      let rests := group.map List.tail
      let target ← if rests = [[]] then pure last else forwardState last length rests
      return ((group.head?.bind List.head?).getD (0, 0), target)
    sharedBranch links

def forwardSlots : UInt64 := 10000

def forwardStep (set : Unicode.Ranges) : Build Unit := do
  let last ← Build.state
  let _ ← (forwardState last 4 (setEncodings set)).run { slotCount := forwardSlots }

/-! ## Backwards -/

/-- The state before which the ranges of a row are taken, from the last one to the first one. -/
def backwardState (next : Nat) : List ByteRange → StateT Memory Build Nat
  | [] => return next
  | (low, high) :: row => do
    let key := [next, low, high]
    match (← get).find? key with
    | some state => backwardState state row
    | none =>
      let state ← Build.state
      modify (·.insert key state)
      backwardState state row

def backwardSlots : UInt64 := 1000

def backwardRows (last : Nat) : List (List ByteRange) → StateT Memory Build Unit
  | [] => return
  | row :: rows => do
    let _ ← backwardState last row
    Build.links 1
    backwardRows last rows

def backwardStep (set : Unicode.Ranges) : Build Unit := do
  let _ ← Build.state
  let last ← Build.state
  let _ ← (backwardRows last (setEncodings set)).run { slotCount := backwardSlots }

/-! ## Both directions -/

def isAscii (set : Unicode.Ranges) : Bool :=
  set.all fun range => range.2 < 0x80

def step (direction : Direction) (set : Unicode.Ranges) : Build Unit :=
  if isAscii set then asciiStep set
  else
    match direction with
    | .forwards => forwardStep set
    | .backwards => backwardStep set

end SchemaShell.Regex.Machine
