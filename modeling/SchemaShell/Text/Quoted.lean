import SchemaShell.Text.Hidden

/-!
# Quoted text

A text between double quotes, for the journal. A double quote and a backslash get a backslash in
front; TAB, LF, CR and NUL have a letter each; every other control or hidden character is written
by its number. All else, the single quote included, stands for itself.
-/

namespace SchemaShell.Text

/-- The number of a character in hexadecimal, between braces. -/
def numberEscape (c : Char) : List Char :=
  ['\\', 'u', '\x7b'] ++ Nat.toDigits 16 c.toNat ++ ['\x7d']

def isControl (c : Char) : Bool :=
  c.toNat < 0x20 || c.toNat == 0x7F

def quotedChar (c : Char) : List Char :=
  match c with
  | '"' => ['\\', '"']
  | '\\' => ['\\', '\\']
  | '\t' => ['\\', 't']
  | '\n' => ['\\', 'n']
  | '\r' => ['\\', 'r']
  | '\x00' => ['\\', '0']
  | c => if isControl c || isHidden c then numberEscape c else [c]

def quoted (text : String) : String :=
  String.ofList ('"' :: text.toList.flatMap quotedChar ++ ['"'])

end SchemaShell.Text
