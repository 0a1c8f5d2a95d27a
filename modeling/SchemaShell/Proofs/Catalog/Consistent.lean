import Mathlib.Data.List.Perm.Basic
import SchemaShell.Catalog.Basic
import SchemaShell.Proofs.Schema.ColumnBlock

/-!
# Consistent catalogs

Only the order of the calls ties the registry to the store. A catalog is consistent when the two
know the same names, each once, and every stored table is well formed and has the name under which
it is kept.
-/

namespace SchemaShell.Catalog

open Schema

variable {catalog : Catalog}

structure Consistent (catalog : Catalog) : Prop where
  distinct : catalog.registry.names.Nodup
  stored_iff : ∀ name, (catalog.store.get? name).isSome = true ↔ name ∈ catalog.registry.names
  named : ∀ name table, catalog.store.get? name = some table → table.name = name
  wellFormed : ∀ name table, catalog.store.get? name = some table → table.WellFormed

theorem consistent_empty : empty.Consistent where
  distinct := List.nodup_nil
  stored_iff name := by simp [empty, Registry.empty]
  named name table h := by simp [empty] at h
  wellFormed name table h := by simp [empty] at h

theorem Consistent.add (h : catalog.Consistent) {table : Table} (fresh : table.name ∉ catalog.registry.names)
    (hw : table.WellFormed) : (catalog.add table).Consistent where
  distinct := by
    simp only [Catalog.add, Registry.names_register]
    exact List.nodup_append.mpr ⟨h.distinct, by simp, by
      rintro a ha b hb rfl
      exact fresh (List.mem_singleton.mp hb ▸ ha)⟩
  stored_iff name := by
    simp only [Catalog.add, Registry.names_register, Store.get?_put, List.mem_append, List.mem_singleton]
    by_cases hn : name = table.name
    · simp [hn]
    · simpa [hn] using h.stored_iff name
  named name other hother := by
    simp only [Catalog.add, Store.get?_put] at hother
    by_cases hn : name = table.name
    · obtain rfl : table = other := by simpa [hn] using hother
      exact hn.symm
    · exact h.named name other (by simpa [hn] using hother)
  wellFormed name other hother := by
    simp only [Catalog.add, Store.get?_put] at hother
    by_cases hn : name = table.name
    · obtain rfl : table = other := by simpa [hn] using hother
      exact hw
    · exact h.wellFormed name other (by simpa [hn] using hother)

theorem Consistent.drop (h : catalog.Consistent) {name : String} {registry : Registry}
    (hdrop : catalog.registry.unregister name = .ok registry) :
    Consistent ⟨registry, catalog.store.evict name⟩ := by
  obtain ⟨-, hnames⟩ := Registry.unregister_eq_ok_iff.mp hdrop
  -- The earliest entry of the name is the only one.
  have hmem : ∀ other, other ∈ registry.names ↔ other ≠ name ∧ other ∈ catalog.registry.names := by
    intro other
    rw [← hnames, h.distinct.mem_erase_iff]
  have hkept : ∀ other table, (catalog.store.evict name).get? other = some table →
      catalog.store.get? other = some table := by
    intro other table htable
    rw [Store.get?_evict] at htable
    by_cases ho : other = name
    · simp [ho] at htable
    · simpa [ho] using htable
  refine ⟨?_, ?_, ?_, ?_⟩
  · rw [← hnames]
    exact h.distinct.erase name
  · intro other
    rw [hmem, Store.get?_evict]
    by_cases ho : other = name
    · simp [ho]
    · simpa [ho] using h.stored_iff other
  · exact fun other table htable => h.named other table (hkept other table htable)
  · exact fun other table htable => h.wellFormed other table (hkept other table htable)

/-! ## What follows for the two collections -/

theorem Consistent.get?_eq_none_iff (h : catalog.Consistent) {name : String} :
    catalog.store.get? name = none ↔ name ∉ catalog.registry.names := by
  rw [← h.stored_iff, Option.not_isSome_iff_eq_none]

theorem Registry.not_mem_of_unregister {registry : Registry} {name : String} {error : RegistryError}
    (h : registry.unregister name = .error error) : name ∉ registry.names := by
  intro hmem
  have hok : registry.unregister name = .ok ⟨registry.names.erase name⟩ :=
    unregister_eq_ok_iff.mpr ⟨hmem, rfl⟩
  rw [h] at hok
  cases hok

theorem Consistent.names_unregister (h : catalog.Consistent) {name : String} {registry : Registry}
    (hdrop : catalog.registry.unregister name = .ok registry) :
    name ∈ catalog.registry.names ∧
      registry.names = catalog.registry.names.filter (fun other => other ≠ name) := by
  obtain ⟨hmem, hnames⟩ := Registry.unregister_eq_ok_iff.mp hdrop
  refine ⟨hmem, ?_⟩
  rw [← hnames, h.distinct.erase_eq_filter]
  simp [bne, beq_eq_decide]

theorem Store.isSome_get?_iff {store : Store} {name : String} :
    (store.get? name).isSome = true ↔ name ∈ store.entries.map Prod.fst := by
  simp [get?, List.find?_isSome]

theorem Consistent.perm (h : catalog.Consistent) :
    catalog.registry.names.Perm (catalog.store.entries.map Prod.fst) := by
  rw [List.perm_ext_iff_of_nodup h.distinct catalog.store.distinct]
  intro name
  rw [← h.stored_iff, Store.isSome_get?_iff]

theorem Consistent.size_eq (h : catalog.Consistent) : catalog.registry.size = catalog.store.size := by
  have hlength := h.perm.length_eq
  rwa [List.length_map] at hlength

theorem Consistent.exists_table (h : catalog.Consistent) {name : String}
    (hname : name ∈ catalog.registry.names) :
    ∃ table, catalog.store.get? name = some table ∧ table.name = name ∧ table.WellFormed := by
  obtain ⟨table, htable⟩ := Option.isSome_iff_exists.mp ((h.stored_iff name).mpr hname)
  exact ⟨table, htable, h.named name table htable, h.wellFormed name table htable⟩

/-! ## All tables -/

theorem Consistent.get?_of_mem_tables (h : catalog.Consistent) {table : Table}
    (htable : table ∈ catalog.tables) : catalog.store.get? table.name = some table := by
  obtain ⟨name, -, hget⟩ := List.mem_filterMap.mp htable
  rwa [h.named name table hget]

theorem Consistent.map_name_tables (h : catalog.Consistent) :
    catalog.tables.map Table.name = catalog.registry.names := by
  have hname : ∀ name ∈ catalog.registry.names,
      (catalog.store.get? name).map Table.name = some name := by
    intro name hname
    obtain ⟨table, htable, hnamed, -⟩ := h.exists_table hname
    rw [htable, Option.map_some, hnamed]
  rw [tables, List.map_filterMap, List.filterMap_congr hname, List.filterMap_some]

def addAll (catalog : Catalog) (tables : List Table) : Catalog :=
  tables.foldl Catalog.add catalog

@[simp] theorem addAll_nil (catalog : Catalog) : catalog.addAll [] = catalog := rfl

@[simp] theorem addAll_cons (catalog : Catalog) (table : Table) (tables : List Table) :
    catalog.addAll (table :: tables) = (catalog.add table).addAll tables := rfl

theorem names_addAll (catalog : Catalog) (tables : List Table) :
    (catalog.addAll tables).registry.names = catalog.registry.names ++ tables.map Table.name := by
  induction tables generalizing catalog with
  | nil => simp
  | cons table tables ih => simp [ih, Catalog.add]

theorem get?_addAll_of_not_mem (catalog : Catalog) {tables : List Table} {name : String}
    (h : name ∉ tables.map Table.name) :
    (catalog.addAll tables).store.get? name = catalog.store.get? name := by
  induction tables generalizing catalog with
  | nil => rfl
  | cons table tables ih =>
    simp only [List.map_cons, List.mem_cons, not_or] at h
    rw [addAll_cons, ih _ h.2, Catalog.add, Store.get?_put, if_neg h.1]

theorem get?_addAll_of_mem (catalog : Catalog) {tables : List Table}
    (hdistinct : (tables.map Table.name).Nodup) {table : Table} (h : table ∈ tables) :
    (catalog.addAll tables).store.get? table.name = some table := by
  induction tables generalizing catalog with
  | nil => cases h
  | cons first tables ih =>
    obtain ⟨hfirst, hdistinct⟩ := List.nodup_cons.mp hdistinct
    rw [addAll_cons]
    rcases List.mem_cons.mp h with rfl | h
    · rw [get?_addAll_of_not_mem _ hfirst, Catalog.add, Store.get?_put, if_pos rfl]
    · exact ih _ hdistinct h

theorem Consistent.registry_addAll_tables (h : catalog.Consistent) :
    (empty.addAll catalog.tables).registry = catalog.registry := by
  have hnames := names_addAll .empty catalog.tables
  rw [h.map_name_tables] at hnames
  exact congrArg Registry.mk hnames

theorem Consistent.get?_addAll_tables (h : catalog.Consistent) (name : String) :
    (empty.addAll catalog.tables).store.get? name = catalog.store.get? name := by
  have hdistinct : (catalog.tables.map Table.name).Nodup := h.map_name_tables ▸ h.distinct
  by_cases hmem : name ∈ catalog.tables.map Table.name
  · obtain ⟨table, htable, rfl⟩ := List.mem_map.mp hmem
    rw [get?_addAll_of_mem _ hdistinct htable, h.get?_of_mem_tables htable]
  · have hunknown : catalog.store.get? name = none := by
      rwa [h.get?_eq_none_iff, ← h.map_name_tables]
    rw [get?_addAll_of_not_mem _ hmem, hunknown]
    rfl

end SchemaShell.Catalog
