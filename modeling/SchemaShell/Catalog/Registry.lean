/-!
# The registry

The names of the known tables, in the order of their creation. The registry itself takes a name any
number of times; whoever registers a name sees to it that the name is new.
-/

namespace SchemaShell.Catalog

structure Registry where
  names : List String
  deriving DecidableEq, Repr

inductive RegistryError where
  | empty
  | notFound (name : String)
  deriving DecidableEq, Repr

def RegistryError.message : RegistryError → String
  | empty => "Table list is empty."
  | notFound name => "Table " ++ name ++ " not found."

namespace Registry

def empty : Registry := ⟨[]⟩

def contains (registry : Registry) (name : String) : Bool :=
  registry.names.contains name

def size (registry : Registry) : Nat :=
  registry.names.length

def isEmpty (registry : Registry) : Bool :=
  registry.names.isEmpty

def register (registry : Registry) (name : String) : Registry :=
  ⟨registry.names ++ [name]⟩

/-- The end of an attempt to take a name out: the registry after it, and whether it failed. -/
structure Removal where
  registry : Registry
  result : Except RegistryError Unit

/-- Takes out the earliest entry of a name. -/
def remove (registry : Registry) (name : String) : Removal :=
  if registry.isEmpty then ⟨registry, .error .empty⟩
  else
    match registry.names.idxOf? name with
    | none => ⟨registry, .error (.notFound name)⟩
    | some place => ⟨⟨registry.names.eraseIdx place⟩, .ok ()⟩

/-- The registry without the earliest entry of a name, or why there is none to take out. -/
def unregister (registry : Registry) (name : String) : Except RegistryError Registry :=
  let removal := registry.remove name
  removal.result.map fun () => removal.registry

@[simp] theorem names_register (registry : Registry) (name : String) :
    (registry.register name).names = registry.names ++ [name] := rfl

theorem contains_iff {registry : Registry} {name : String} :
    registry.contains name = true ↔ name ∈ registry.names := by
  simp [contains]

theorem remove_eq (registry : Registry) (name : String) :
    registry.remove name =
      if registry.names = [] then ⟨registry, .error .empty⟩
      else if name ∈ registry.names then ⟨⟨registry.names.erase name⟩, .ok ()⟩
      else ⟨registry, .error (.notFound name)⟩ := by
  simp only [remove, isEmpty, List.isEmpty_iff, List.erase_eq_eraseIdx]
  cases hplace : registry.names.idxOf? name with
  | none => rw [if_neg (List.idxOf?_eq_none_iff.mp hplace)]
  | some place =>
    have hmem : name ∈ registry.names := by
      rw [← List.isSome_idxOf?, hplace]
      rfl
    rw [if_pos hmem]

theorem registry_remove_of_error {registry : Registry} {name : String} {error : RegistryError}
    (h : (registry.remove name).result = .error error) : (registry.remove name).registry = registry := by
  rw [remove_eq] at h ⊢
  split
  · rfl
  · next hsome =>
    rw [if_neg hsome] at h
    split
    · next hmem =>
      rw [if_pos hmem] at h
      cases h
    · rfl

theorem remove_of_ok {registry after : Registry} {name : String}
    (h : registry.unregister name = .ok after) : registry.remove name = ⟨after, .ok ()⟩ := by
  rw [unregister] at h
  rcases hremoval : registry.remove name with ⟨kept, error | _⟩
  · simp [hremoval, Except.map] at h
  · simp_all [Except.map]

theorem remove_of_error {registry : Registry} {name : String} {error : RegistryError}
    (h : registry.unregister name = .error error) : registry.remove name = ⟨registry, .error error⟩ := by
  rw [unregister] at h
  rcases hremoval : registry.remove name with ⟨kept, other | _⟩
  · obtain rfl : other = error := by simpa [hremoval, Except.map] using h
    obtain rfl : kept = registry := by
      simpa [hremoval] using registry_remove_of_error (congrArg Removal.result hremoval)
    rfl
  · simp [hremoval, Except.map] at h

theorem unregister_eq (registry : Registry) (name : String) :
    registry.unregister name =
      if registry.names = [] then .error .empty
      else if name ∈ registry.names then .ok ⟨registry.names.erase name⟩
      else .error (.notFound name) := by
  rw [unregister, remove_eq]
  split
  · rfl
  · split <;> rfl

theorem unregister_eq_ok_iff {registry after : Registry} {name : String} :
    registry.unregister name = .ok after ↔
      name ∈ registry.names ∧ registry.names.erase name = after.names := by
  rcases after with ⟨kept⟩
  rw [unregister_eq]
  split
  · next hnone => simp [hnone]
  · split
    · next hmem => simp [hmem]
    · next hmem => simp [hmem]

end Registry

end SchemaShell.Catalog
