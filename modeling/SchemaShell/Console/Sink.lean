/-!
# Sinks

Where the output goes. A sink may have room for a number of bytes only; then it takes exactly these
and fails at the next one.
-/

namespace SchemaShell.Console

structure Sink where
  /-- The number of bytes that are still taken, `none` for any number. -/
  room : Option Nat
  /-- Why the sink fails once it is full. -/
  reason : String
  deriving DecidableEq, Repr

namespace Sink

def unlimited : Sink := ⟨none, ""⟩

def fits (sink : Sink) (bytes : List UInt8) : Bool :=
  sink.room.all (bytes.length ≤ ·)

/-- The first bytes, as many as there is room for. -/
def accepted (sink : Sink) (bytes : List UInt8) : List UInt8 :=
  match sink.room with
  | none => bytes
  | some n => bytes.take n

def after (sink : Sink) (bytes : List UInt8) : Sink :=
  { sink with room := sink.room.map (· - bytes.length) }

end Sink

end SchemaShell.Console
