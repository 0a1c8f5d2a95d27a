/-!
# Numerals

Numbers in decimal digits. A numeral is a plus sign, which may be left out, and then digits, of
which there is at least one. Leading zeros are allowed. The number is built up digit by digit in a
word of 64 bits, which it must not outgrow.
-/

namespace SchemaShell.Text

def digitValue (c : Char) : Nat :=
  c.toNat - '0'.toNat

/-- The value of a row of digits, the first one being the highest. -/
def decimalValue (digits : List Char) : Nat :=
  digits.foldl (fun value c => 10 * value + digitValue c) 0

@[simp] theorem decimalValue_nil : decimalValue [] = 0 := rfl

theorem decimalValue_concat (digits : List Char) (c : Char) :
    decimalValue (digits ++ [c]) = 10 * decimalValue digits + digitValue c := by
  simp [decimalValue]

def decimal (n : Nat) : String :=
  String.ofList (Nat.toDigits 10 n)

def withoutPlus : List Char → List Char
  | '+' :: digits => digits
  | digits => digits

/-- Puts a digit behind the number read so far. -/
def pushDigit? (value : UInt64) (c : Char) : Option UInt64 :=
  if c.isDigit ∧ 10 * value.toNat + digitValue c < UInt64.size then
    some (10 * value + UInt64.ofNat (digitValue c))
  else
    none

/-- The number that a row of digits writes, `none` as soon as there is another character or the
number outgrows the word. -/
def readDigits? (digits : List Char) : Option UInt64 :=
  digits.foldlM pushDigit? 0

@[simp] theorem readDigits?_nil : readDigits? [] = some 0 := rfl

theorem readDigits?_concat (digits : List Char) (c : Char) :
    readDigits? (digits ++ [c]) = (readDigits? digits).bind (pushDigit? · c) := by
  simp [readDigits?]

/-- The number that a numeral writes, `none` for any other text and for a number of 2^64 or more. -/
def numeral? (text : List Char) : Option UInt64 :=
  let digits := withoutPlus text
  if digits = [] then none else readDigits? digits

end SchemaShell.Text
