import Mathlib.Data.List.Perm.Subperm
import SchemaShell.Catalog.Registry

/-!
# The entries of a registry

The registry does not ask whether a name is new, so it may hold a name any number of times. Whatever is
called on it, it holds the names that were registered, in order, less the earliest entry of a name for each
time that the name was taken out.
-/

namespace SchemaShell.Catalog.Registry

variable {registry after : Registry} {name : String}

/-! ## Taking out one entry -/

theorem unregister_eq_empty_iff : registry.unregister name = .error .empty ↔ registry.names = [] := by
  rw [unregister_eq]
  split
  · next hnone => simp [hnone]
  · next hsome => split <;> simp [hsome]

theorem unregister_eq_notFound_iff {missing : String} :
    registry.unregister name = .error (.notFound missing) ↔
      missing = name ∧ registry.names ≠ [] ∧ name ∉ registry.names := by
  rw [unregister_eq]
  split
  · next hnone => simp [hnone]
  · next hsome => split <;> simp [*, eq_comm]

theorem unregister_eq_ok_iff_earliest :
    registry.unregister name = .ok after ↔
      ∃ front back, name ∉ front ∧ registry.names = front ++ name :: back ∧ after.names = front ++ back := by
  rw [unregister_eq_ok_iff]
  constructor
  · rintro ⟨hmem, hnames⟩
    obtain ⟨front, back, hfront, hbefore, herase⟩ := List.exists_erase_eq hmem
    exact ⟨front, back, hfront, hbefore, hnames.symm.trans herase⟩
  · rintro ⟨front, back, hfront, hbefore, hafter⟩
    rw [hbefore, hafter, List.erase_append_right _ hfront, List.erase_cons_head]
    simp

/-! ## Any number of calls -/

inductive Call where
  | register (name : String)
  | unregister (name : String)
  deriving DecidableEq, Repr

def afterCall (registry : Registry) : Call → Registry
  | .register name => registry.register name
  | .unregister name => (registry.remove name).registry

def afterCalls (registry : Registry) (calls : List Call) : Registry :=
  calls.foldl afterCall registry

/-- The name that a call puts in. -/
def Call.entered : Call → List String
  | register name => [name]
  | unregister _ => []

/-- The name that a call takes out, which it does when it succeeds. -/
def takes (registry : Registry) : Call → List String
  | .register _ => []
  | .unregister name =>
    match (registry.remove name).result with
    | .ok () => [name]
    | .error _ => []

theorem afterCall_of_ok (h : registry.unregister name = .ok after) :
    registry.afterCall (.unregister name) = after :=
  congrArg Removal.registry (remove_of_ok h)

theorem afterCall_of_error {error : RegistryError} (h : registry.unregister name = .error error) :
    registry.afterCall (.unregister name) = registry :=
  congrArg Removal.registry (remove_of_error h)

theorem takes_of_ok (h : registry.unregister name = .ok after) :
    registry.takes (.unregister name) = [name] := by
  simp [takes, remove_of_ok h]

theorem takes_of_error {error : RegistryError} (h : registry.unregister name = .error error) :
    registry.takes (.unregister name) = [] := by
  simp [takes, remove_of_error h]

def registered (calls : List Call) : List String :=
  calls.flatMap Call.entered

def takenOut (registry : Registry) : List Call → List String
  | [] => []
  | call :: calls => registry.takes call ++ (registry.afterCall call).takenOut calls

theorem count_registered (calls : List Call) (name : String) :
    (registered calls).count name = calls.count (.register name) := by
  induction calls with
  | nil => rfl
  | cons call calls ih =>
    unfold registered at *
    rw [List.flatMap_cons, List.count_append, ih, List.count_cons, Nat.add_comm]
    cases call <;> simp [Call.entered, List.count_singleton]

/-- The registry holds what was put in, less what was taken out. -/
structure Holds (registry : Registry) (entered taken : List String) : Prop where
  names : registry.names = entered.diff taken
  fewer : taken.Subperm entered

theorem holds_empty : Holds .empty [] [] where
  names := rfl
  fewer := List.Subperm.refl []

theorem diff_concat {entered taken : List String} (h : taken.Subperm entered) (name : String) :
    (entered ++ [name]).diff taken = entered.diff taken ++ [name] := by
  induction taken generalizing entered with
  | nil => rfl
  | cons gone taken ih =>
    have hgone : gone ∈ entered := h.subset List.mem_cons_self
    have hrest : taken.Subperm (entered.erase gone) := by simpa using h.erase gone
    rw [List.diff_cons, List.diff_cons, List.erase_append_left _ hgone, ih hrest]

theorem Holds.register {entered taken : List String} (h : Holds registry entered taken) (name : String) :
    Holds (registry.register name) (entered ++ [name]) taken where
  names := by rw [names_register, h.names, diff_concat h.fewer]
  fewer := h.fewer.trans (List.sublist_append_left entered [name]).subperm

theorem Holds.count {entered taken : List String} (h : Holds registry entered taken) (name : String) :
    registry.names.count name + taken.count name = entered.count name := by
  have hperm := (List.subperm_append_diff_self_of_count_le fun x _ => h.fewer.count_le x).count_eq name
  rw [List.count_append, ← h.names] at hperm
  omega

theorem Holds.unregister {entered taken : List String} (h : Holds registry entered taken)
    (hok : registry.unregister name = .ok after) : Holds after entered (taken ++ [name]) where
  names := by
    rw [List.diff_append, ← h.names, ← (unregister_eq_ok_iff.mp hok).2]
    simp
  fewer := by
    rw [List.subperm_ext_iff]
    intro other _
    have hcount := h.count other
    rw [List.count_append, List.count_singleton]
    split
    · next hother =>
      obtain rfl := beq_iff_eq.mp hother
      have hpos := List.count_pos_iff.mpr (unregister_eq_ok_iff.mp hok).1
      omega
    · omega

theorem Holds.step {entered taken : List String} (h : Holds registry entered taken) (call : Call) :
    Holds (registry.afterCall call) (entered ++ call.entered) (taken ++ registry.takes call) := by
  cases call with
  | register name =>
    unfold Call.entered takes
    rw [List.append_nil]
    exact h.register name
  | unregister name =>
    unfold Call.entered
    rw [List.append_nil]
    cases hanswer : registry.unregister name with
    | ok after =>
      rw [afterCall_of_ok hanswer, takes_of_ok hanswer]
      exact h.unregister hanswer
    | error error =>
      rw [afterCall_of_error hanswer, takes_of_error hanswer, List.append_nil]
      exact h

theorem Holds.run {entered taken : List String} (h : Holds registry entered taken) (calls : List Call) :
    Holds (registry.afterCalls calls) (entered ++ registered calls) (taken ++ registry.takenOut calls) := by
  induction calls generalizing registry entered taken with
  | nil => simpa [afterCalls, registered, takenOut] using h
  | cons call calls ih =>
    have hrest := ih (h.step call)
    rwa [List.append_assoc, List.append_assoc] at hrest

/-- However a fresh registry is called, it holds what was registered less what was taken out. It fails to
take out a name just when it is empty or does not hold the name, which leaves it as it was, and otherwise
takes out the earliest entry of the name and keeps the order of the others. -/
theorem registry_is_ordered_multiset (calls : List Call) :
    let registry := empty.afterCalls calls
    let taken := empty.takenOut calls
    registry.names = (registered calls).diff taken ∧
    (∀ name, registry.names.count name + taken.count name = calls.count (.register name)) ∧
    ∀ name,
      (registry.contains name = true ↔ 0 < registry.names.count name) ∧
      (registry.unregister name = .error .empty ↔ registry.names = []) ∧
      (∀ missing, registry.unregister name = .error (.notFound missing) ↔
        missing = name ∧ registry.names ≠ [] ∧ registry.names.count name = 0) ∧
      (∀ after, registry.unregister name = .ok after ↔
        ∃ front back, name ∉ front ∧ registry.names = front ++ name :: back ∧ after.names = front ++ back) ∧
      ∀ error, registry.unregister name = .error error → registry.afterCall (.unregister name) = registry := by
  intro registry taken
  have h : Holds registry (registered calls) taken := holds_empty.run calls
  refine ⟨h.names, ?_, ?_⟩
  · intro name
    rw [h.count, count_registered]
  · intro name
    refine ⟨?_, unregister_eq_empty_iff, ?_, fun _ => unregister_eq_ok_iff_earliest, ?_⟩
    · rw [contains_iff, List.count_pos_iff]
    · intro missing
      rw [List.count_eq_zero]
      exact unregister_eq_notFound_iff
    · intro error hanswer
      exact afterCall_of_error hanswer

theorem registry_is_ordered_multiset_of_repeats :
    let calls : List Call := [.register "b", .register "a", .register "b", .unregister "b", .unregister "c"]
    let registry := empty.afterCalls calls
    registry.names = ["a", "b"] ∧ registry.names.count "b" + 1 = calls.count (.register "b") ∧
      registry.unregister "c" = .error (.notFound "c") ∧
      registry.afterCall (.unregister "c") = registry ∧ registry.unregister "b" = .ok ⟨["a"]⟩ := by
  intro calls registry
  obtain ⟨hnames, hcount, hcalls⟩ := registry_is_ordered_multiset calls
  have hleft : registry.names = ["a", "b"] := hnames.trans (by decide)
  obtain ⟨-, -, hmissing, -, hkept⟩ := hcalls "c"
  obtain ⟨-, -, -, hok, -⟩ := hcalls "b"
  have hfails : registry.unregister "c" = .error (.notFound "c") :=
    (hmissing "c").mpr ⟨rfl, by decide, by decide⟩
  exact ⟨hleft, hcount "b", hfails, hkept _ hfails, (hok ⟨["a"]⟩).mpr ⟨["a"], [], by decide, hleft, rfl⟩⟩

end SchemaShell.Catalog.Registry
