import SchemaShell.Command.Shape

/-!
# Commands

A command is a line that was read against the shape of its kind: the text of each field, the part
of the line that the shape covers, and what is left of the line after it.
-/

namespace SchemaShell

/-- A field that the line leaves out has the empty text. -/
structure Command where
  kind : Command.Kind
  captures : List (Command.Field × String)
  matched : String
  remainder : String
  deriving DecidableEq, Repr

namespace Command

def fieldText? (r : Reading Field) (field : Field) : Option String :=
  (r.parts.lookup field).map String.ofList

def ofReading (kind : Kind) (r : Reading Field) : Command where
  kind := kind
  captures := kind.fields.map fun field => (field, (fieldText? r field).getD "")
  matched := String.ofList r.taken
  remainder := String.ofList r.rest

/-- The text of a field, if the kind has the field and the line does not leave it out. -/
def get? (command : Command) (field : Field) : Option String :=
  (command.captures.lookup field).filter (· ≠ "")

/-- As `get?`, by the label of the field. -/
def getLabel? (command : Command) (label : String) : Option String :=
  (Field.ofLabel? label).bind command.get?

/-- The line starts like a command of this kind but does not have its shape. -/
structure FormatError where
  kind : Kind
  deriving DecidableEq, Repr

namespace FormatError

def expected (error : FormatError) : String :=
  error.kind.expectedFormat

def message (error : FormatError) : String :=
  "Proper format is:\n" ++ error.expected

end FormatError

end Command

end SchemaShell
