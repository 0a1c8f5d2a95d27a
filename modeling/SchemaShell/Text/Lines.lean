/-!
# Lines of a text

A line ends with a line feed, and a carriage return right before that belongs to the line end. The
last line may lack its end; a carriage return there stays.
-/

namespace SchemaShell.Text

def withoutReturn (line : List Char) : List Char :=
  if line.getLast? = some '\r' then line.dropLast else line

def lines (text : List Char) : List (List Char) :=
  let pieces := text.splitOn '\n'
  pieces.dropLast.map withoutReturn ++ (pieces.getLast?.filter (· ≠ [])).toList

end SchemaShell.Text
