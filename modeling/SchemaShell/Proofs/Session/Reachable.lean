import SchemaShell.Proofs.Catalog.Consistent
import SchemaShell.Proofs.Session.CreateTable

/-!
# Reachable sessions

Every line keeps the catalog consistent, so the catalog of a session is consistent after any lines.
-/

namespace SchemaShell

open Command Written

variable {σ : Type} {handler : Handler σ} {session : Session σ} {line : String}

namespace Session

theorem consistent_process (h : session.catalog.Consistent) (handler : Handler σ) (line : String) :
    (session.process handler line).session.catalog.Consistent := by
  have heffect := process_effect handler session line
  generalize session.process handler line = step at heffect ⊢
  cases heffect with
  | created reads fresh builds =>
    obtain ⟨hname, hw⟩ := reads.wellFormed_of_build builds
    rw [← hname] at fresh
    exact h.add fresh hw
  | dropped reads alone drops => exact h.drop drops
  | _ => exact h

theorem processAll_cons (handler : Handler σ) (session : Session σ) (line : String) (lines : List String) :
    session.processAll handler (line :: lines) =
      (session.process handler line).session.processAll handler lines := by
  simp only [processAll, List.foldl_cons]

def outcomes (handler : Handler σ) : Session σ → List String → List Outcome
  | _, [] => []
  | session, line :: lines =>
    (session.process handler line).outcome ::
      outcomes handler (session.process handler line).session lines

theorem consistent_processAll (h : session.catalog.Consistent) (handler : Handler σ)
    (lines : List String) : (session.processAll handler lines).catalog.Consistent := by
  induction lines generalizing session with
  | nil => exact h
  | cons line lines ih =>
    rw [processAll_cons]
    exact ih (consistent_process h handler line)

theorem consistent_reachable (handler : Handler σ) (handlerState : σ) (lines : List String) :
    ((start handlerState).processAll handler lines).catalog.Consistent :=
  consistent_processAll Catalog.consistent_empty handler lines

/-- After any lines the registry and the store know the same names, once each, and what is stored
under a name is a table of that name with columns that can be written. -/
theorem registry_and_store_agree (handler : Handler σ) (handlerState : σ) (lines : List String) :
    let catalog := ((start handlerState).processAll handler lines).catalog
    catalog.registry.names.Nodup ∧
    (∀ name, catalog.registry.contains name = true ↔ ∃ table, catalog.store.get? name = some table) ∧
    catalog.registry.size = catalog.store.size ∧
    (∀ name ∈ catalog.registry.names, Identifier name.toList) ∧
    ∀ name table, catalog.store.get? name = some table →
      table.name = name ∧ table.columns ≠ [] ∧
      ∀ column ∈ table.columns,
        Identifier column.name.toList ∧ Word column.default.toList ∧ column.size.toNat < UInt64.size := by
  intro catalog
  have h : catalog.Consistent := consistent_reachable handler handlerState lines
  refine ⟨h.distinct, ?_, h.size_eq, ?_, ?_⟩
  · intro name
    rw [Catalog.Registry.contains_iff, ← h.stored_iff, Option.isSome_iff_exists]
  · intro name hname
    obtain ⟨table, -, hnamed, hw⟩ := h.exists_table hname
    exact hnamed ▸ hw.name
  · intro name table htable
    have hw := h.wellFormed name table htable
    refine ⟨h.named name table htable, hw.columns_ne_nil, fun column hcolumn => ?_⟩
    obtain ⟨hname, hdefault⟩ := hw.columns column hcolumn
    exact ⟨hname, hdefault, column.size.toNat_lt_size⟩

end Session

end SchemaShell
