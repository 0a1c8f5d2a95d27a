import SchemaShell.Unicode.Ranges

/-!
# Encodings of ranges

A range of characters as rows of ranges of bytes: a character lies in the range when its encoding
in UTF-8 follows one of the rows. The rows come in the order of the characters.
-/

namespace SchemaShell.Regex.Machine

abbrev ByteRange := Nat × Nat

/-- Cuts a range at each of the limits, which are the greatest values of the parts. -/
def cutAt : List Nat → Nat → Nat → List (Nat × Nat)
  | [], low, high => [(low, high)]
  | limit :: limits, low, high =>
    if low ≤ limit ∧ limit < high then (low, limit) :: cutAt limits (limit + 1) high
    else cutAt limits low high

/-- The greatest code points of one, two and three bytes, and the last one before the
surrogates. -/
def encodingLimits : List Nat :=
  [0x7F, 0x7FF, 0xD7FF, 0xDFFF, 0xFFFF]

/-- Cuts a range into blocks that lie within a row of a block size or take up whole ones. -/
def cutIntoBlocks : List Nat → Nat → Nat → List (Nat × Nat)
  | [], low, high => [(low, high)]
  | size :: sizes, low, high =>
    if low / size = high / size then [(low, high)]
    else
      let start := if low % size = 0 then low else (low / size + 1) * size
      let stop := if (high + 1) % size = 0 then high + 1 else high / size * size
      let first := if low < start then [(low, start - 1)] else []
      let last := if stop ≤ high then [(stop, high)] else []
      let middle := if start < stop then cutIntoBlocks sizes start (stop - 1) else []
      first ++ middle ++ last

/-- The numbers of characters that differ in the last one, two or three bytes only. -/
def blockSizes : List Nat :=
  [0x40, 0x1000, 0x40000]

def isSurrogate (code : Nat) : Bool :=
  0xD800 ≤ code && code ≤ 0xDFFF

def utf8 (code : Nat) : List Nat :=
  (String.utf8EncodeChar (Char.ofNat code)).map UInt8.toNat

/-- The rows of a range of characters whose encodings have the same number of bytes. -/
def rowsOf (low high : Nat) : List (List ByteRange) :=
  if high < 0x80 then [[(low, high)]]
  else (cutIntoBlocks blockSizes low high).map fun (low, high) => (utf8 low).zip (utf8 high)

def encodings (low high : Nat) : List (List ByteRange) :=
  ((cutAt encodingLimits low high).filter (!isSurrogate ·.1)).flatMap fun (low, high) =>
    rowsOf low high

def setEncodings (set : Unicode.Ranges) : List (List ByteRange) :=
  set.flatMap fun (low, high) => encodings low high

end SchemaShell.Regex.Machine
