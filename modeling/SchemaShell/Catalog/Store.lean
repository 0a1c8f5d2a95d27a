import SchemaShell.Schema.Table

/-!
# The store

The schemas of tables, each kept under a key. A key has at most one schema; the order in which the
schemas are kept cannot be seen. A table is put in under its own name, but nothing in a store says
that the key of a schema is the name in it.
-/

namespace SchemaShell.Catalog

open Schema

structure Store where
  entries : List (String × Table)
  distinct : (entries.map Prod.fst).Nodup

namespace Store

def empty : Store := ⟨[], List.nodup_nil⟩

def size (store : Store) : Nat :=
  store.entries.length

def isEmpty (store : Store) : Bool :=
  store.entries.isEmpty

def get? (store : Store) (key : String) : Option Table :=
  (store.entries.find? (·.1 == key)).map (·.2)

def evict (store : Store) (key : String) : Store where
  entries := store.entries.filter (·.1 ≠ key)
  distinct := store.distinct.sublist (List.filter_sublist.map _)

/-- Keeps a schema under a key, in place of the one that was there. -/
def insert (store : Store) (key : String) (table : Table) : Store where
  entries := (key, table) :: (store.evict key).entries
  distinct := by
    rw [List.map_cons, List.nodup_cons]
    refine ⟨?_, (store.evict key).distinct⟩
    simp [evict]

def put (store : Store) (table : Table) : Store :=
  store.insert table.name table

@[simp] theorem get?_empty (key : String) : empty.get? key = none := rfl

theorem get?_evict (store : Store) (gone key : String) :
    (store.evict gone).get? key = if key = gone then none else store.get? key := by
  unfold get? evict
  rw [List.find?_filter]
  split
  · next h => simp [h]
  · next h =>
    congr 2
    funext entry
    by_cases hentry : entry.1 = key <;> simp [hentry, h]

theorem get?_insert (store : Store) (kept key : String) (table : Table) :
    (store.insert kept table).get? key = if key = kept then some table else store.get? key := by
  by_cases h : kept = key
  · simp [get?, insert, h]
  · have hstep : (store.insert kept table).get? key = (store.evict kept).get? key := by
      simp [get?, insert, h]
    have hne : key ≠ kept := fun e => h e.symm
    rw [hstep, get?_evict, if_neg hne, if_neg hne]

theorem get?_put (store : Store) (table : Table) (key : String) :
    (store.put table).get? key = if key = table.name then some table else store.get? key :=
  store.get?_insert table.name key table

end Store

end SchemaShell.Catalog
