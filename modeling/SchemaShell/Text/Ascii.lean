/-!
# ASCII blanks

Inside a command only the six ASCII blanks separate words. Letters, digits and letter case are
those of `Char.isAlpha`, `Char.isDigit` and `Char.toUpper`, which know ASCII only.
-/

namespace SchemaShell.Text

/-- TAB, LF, VT, FF, CR or SPACE. -/
def isBlank (c : Char) : Bool :=
  c == ' ' || ('\t' ≤ c && c ≤ '\r')

end SchemaShell.Text
