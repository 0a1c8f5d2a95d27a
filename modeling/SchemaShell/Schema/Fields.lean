import SchemaShell.Text.WhiteSpace

/-!
# Fields of a column block

A block such as `(a, number, 10, 0), (b, string, 5, x)` is cut into fields. Parentheses, commas and
white space separate fields and belong to none. Any other character opens a field, and only ASCII
letters and digits go on with the field that is open.
-/

namespace SchemaShell.Schema

def isSeparator (c : Char) : Bool :=
  c == '(' || c == ')' || c == ',' || Text.isWhiteSpace c

def skipSeparators (text : List Char) : List Char :=
  text.dropWhile isSeparator

/-- The field that a character has opened, and the text behind it. -/
def lexField (start : Char) (text : List Char) : List Char × List Char :=
  (start :: text.takeWhile Char.isAlphanum, text.dropWhile Char.isAlphanum)

def nextField? (text : List Char) : Option (List Char × List Char) :=
  match skipSeparators text with
  | [] => none
  | start :: text => some (lexField start text)

/-- At most `limit` fields, one after the other. -/
def lexFields : Nat → List Char → List (List Char)
  | 0, _ => []
  | limit + 1, text =>
    match nextField? text with
    | none => []
    | some (field, text) => field :: lexFields limit text

/-- The fields of a block. Each takes at least one character. -/
def fields (block : String) : List String :=
  (lexFields block.toList.length block.toList).map String.ofList

end SchemaShell.Schema
