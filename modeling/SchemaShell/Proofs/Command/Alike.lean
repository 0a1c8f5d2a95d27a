import SchemaShell.Command.Recognize
import SchemaShell.Proofs.Pattern.Alike

/-!
# Lines that are read alike

When no opening and no shape can tell two lines apart, the lines are of the same kind, and they are
commands with corresponding fields or no commands at all.
-/

namespace SchemaShell.Command

open Pattern

variable {R : List Char → List Char → Prop} {kind : Kind} {line other : String}

structure Alike (R : List Char → List Char → Prop) (command second : Command) : Prop where
  kind : command.kind = second.kind
  captures : List.Forall₂ (fun a b => a.1 = b.1 ∧ R a.2.toList b.2.toList) command.captures
    second.captures
  matched : R command.matched.toList second.matched.toList
  remainder : R command.remainder.toList second.remainder.toList

theorem ofReading_alike (hR : Congruent R) {r s : Reading Field} (h : r.Alike R s) :
    (ofReading kind r).Alike R (ofReading kind s) where
  kind := rfl
  captures := by
    rw [ofReading, ofReading, List.forall₂_map_left_iff, List.forall₂_map_right_iff, List.forall₂_same]
    intro field _
    have hlookup := lookup_rel h.parts field
    refine ⟨rfl, ?_⟩
    rw [fieldText?, fieldText?]
    generalize r.parts.lookup field = text at hlookup
    generalize s.parts.lookup field = second at hlookup
    cases hlookup with
    | none => exact hR.nil
    | some htext => simpa using htext
  matched := by simpa [ofReading] using h.taken
  remainder := by simpa [ofReading] using h.rest

theorem Alike.get? (hR : Congruent R) {command second : Command} (h : command.Alike R second)
    (field : Field) :
    Option.Rel (fun a b => R a.toList b.toList) (command.get? field) (second.get? field) := by
  have hlookup := lookup_rel (S := fun a b : String => R a.toList b.toList) h.captures field
  unfold Command.get?
  generalize command.captures.lookup field = text at hlookup
  generalize second.captures.lookup field = other at hlookup
  cases hlookup with
  | none => exact .none
  | @some a b hab =>
    have hempty : a = "" ↔ b = "" := by
      rw [← String.toList_eq_nil_iff, ← String.toList_eq_nil_iff]
      exact hR.eq_nil_iff hab
    rw [Option.filter_some, Option.filter_some]
    by_cases ha : a = ""
    · rw [if_neg (by simp [ha]), if_neg (by simp [hempty.mp ha])]
      exact .none
    · rw [if_pos (by simp [ha]), if_pos (by simp [mt hempty.mpr ha])]
      exact .some hab

theorem classify_congr (hopening : ∀ kind : Kind, Respects R kind.opening)
    (h : R (normalize line) (normalize other)) : classify line = classify other := by
  have hopens : ∀ kind : Kind, (kind.opening.read? (normalize line)).isSome =
      (kind.opening.read? (normalize other)).isSome := by
    intro kind
    have hread := (hopening kind).read? h
    generalize kind.opening.read? (normalize line) = r at hread
    generalize kind.opening.read? (normalize other) = s at hread
    cases hread <;> rfl
  simp only [classify, hopens]

theorem validate_alike (hR : Congruent R) (hshape : Respects R kind.shape)
    (h : R (normalize line) (normalize other)) :
    (validate kind line = .error ⟨kind⟩ ∧ validate kind other = .error ⟨kind⟩) ∨
      ∃ command second, validate kind line = .ok command ∧ validate kind other = .ok second ∧
        command.Alike R second := by
  have hread := hshape.read? h
  unfold validate
  generalize kind.shape.read? (normalize line) = r at hread
  generalize kind.shape.read? (normalize other) = s at hread
  cases hread with
  | none => exact Or.inl ⟨rfl, rfl⟩
  | some halike => exact Or.inr ⟨_, _, rfl, rfl, ofReading_alike hR halike⟩

end SchemaShell.Command
