import SchemaShell.Catalog.Registry
import SchemaShell.Catalog.Store

/-!
# The catalog

All that a session knows about tables: which names there are, and the schema of each.
-/

namespace SchemaShell

structure Catalog where
  registry : Catalog.Registry
  store : Catalog.Store

namespace Catalog

def empty : Catalog := ⟨.empty, .empty⟩

/-- Makes a table known. -/
def add (catalog : Catalog) (table : Schema.Table) : Catalog :=
  ⟨catalog.registry.register table.name, catalog.store.put table⟩

/-- The stored tables, in the order of the registry. -/
def tables (catalog : Catalog) : List Schema.Table :=
  catalog.registry.names.filterMap catalog.store.get?

end Catalog

end SchemaShell
