import SchemaShell.Session.Journal
import SchemaShell.Text.WhiteSpace

/-!
# Commands on the catalog

What CREATE TABLE and DROP TABLE do to the catalog. A command that is refused leaves the catalog as
it was.
-/

namespace SchemaShell.Catalog

open Journal

/-- The end of a command on the catalog. -/
structure Change where
  catalog : Catalog
  result : Except Refusal Report
  events : List Event

def refuse (catalog : Catalog) (refusal : Refusal) : Change :=
  ⟨catalog, .error refusal, []⟩

/-- A name that is known is refused, or let pass with `IF NOT EXISTS`, whatever its columns are. -/
def createTable (catalog : Catalog) (command : Command) : Change :=
  let name := (command.get? .table).getD ""
  let ifNotExists := (command.get? .ifNotExists).isSome
  if catalog.registry.contains name then
    if ifNotExists then ⟨catalog, .ok (.tableExists name), [.alreadyExists name]⟩
    else catalog.refuse (.duplicateTable name)
  else
    match Schema.build name ((command.get? .columns).getD "") with
    | .error error => catalog.refuse (.schema error)
    | .ok table =>
      ⟨catalog.add table, .ok (.tableCreated name ifNotExists),
        [.created name table.columns.length]⟩

/-- Whether a name and what is left of its line are more than one name. -/
def givesList (name remainder : String) : Bool :=
  let tail := name.toList ++ ' ' :: remainder.toList
  1 < (Text.words tail).length || tail.contains ','

/-- One name only may be given. It is looked up after that. -/
def dropTable (catalog : Catalog) (command : Command) : Change :=
  let name := (command.get? .table).getD ""
  if givesList name command.remainder then
    catalog.refuse .listNotAllowed
  else
    let removal := catalog.registry.remove name
    match removal.result with
    | .error error => refuse ⟨removal.registry, catalog.store⟩ (.registry error)
    | .ok () =>
      ⟨⟨removal.registry, catalog.store.evict name⟩, .ok (.tableDropped name), [.dropped name]⟩

end SchemaShell.Catalog
