import Mathlib.Data.List.Forall2
import SchemaShell.Pattern.Basic

/-!
# Patterns that cannot tell texts apart

Two texts may differ in a way that a pattern does not see. `Respects` says that the readings of two
such texts correspond one to one, in the same order. The ways to put patterns together keep this, so
it has to be shown for single steps only.
-/

namespace SchemaShell

open Relator

variable {ι : Type} {R : List Char → List Char → Prop}

/-- A relation that goes along with taking texts apart and putting them together. -/
structure Congruent (R : List Char → List Char → Prop) : Prop where
  nil : R [] []
  append {front back text more : List Char} (hfront : R front text) (hback : R back more) :
    R (front ++ back) (text ++ more)
  eq_nil_iff {text other : List Char} (h : R text other) : text = [] ↔ other = []

/-- Two readings name the same parts, and all their texts are related. -/
structure Reading.Alike (R : List Char → List Char → Prop) (r s : Reading ι) : Prop where
  taken : R r.taken s.taken
  parts : List.Forall₂ (fun a b => a.1 = b.1 ∧ R a.2 b.2) r.parts s.parts
  rest : R r.rest s.rest

theorem lookup_rel {κ α : Type} [BEq κ] {S : α → α → Prop} {as bs : List (κ × α)}
    (h : List.Forall₂ (fun a b => a.1 = b.1 ∧ S a.2 b.2) as bs) (name : κ) :
    Option.Rel S (as.lookup name) (bs.lookup name) := by
  induction h with
  | nil => exact .none
  | @cons a b as bs hab rest ih =>
    obtain ⟨hname, htext⟩ := hab
    rw [List.lookup_cons, List.lookup_cons, hname]
    split
    · exact .some htext
    · exact ih

namespace Reading

theorem alike_empty (hR : Congruent R) {text other : List Char} (h : R text other) :
    Alike R (.empty text : Reading ι) (.empty other) :=
  ⟨hR.nil, .nil, h⟩

theorem Alike.followedBy (hR : Congruent R) {r s next last : Reading ι} (h : Alike R r s)
    (hn : Alike R next last) : Alike R (r.followedBy next) (s.followedBy last) :=
  ⟨hR.append h.taken hn.taken, List.rel_append h.parts hn.parts, hn.rest⟩

theorem Alike.named {r s : Reading ι} (h : Alike R r s) (name : ι) :
    Alike R (r.named name) (s.named name) :=
  ⟨h.taken, .cons ⟨rfl, h.taken⟩ h.parts, h.rest⟩

end Reading

namespace Pattern

open Reading

/-- The readings of related texts correspond. -/
def Respects (R : List Char → List Char → Prop) (p : Pattern ι) : Prop :=
  (R ⇒ List.Forall₂ (Alike R)) p.readings p.readings

/-! ## Loops -/

theorem rounds_alike (hR : Congruent R) {step : List Char → List (Reading ι)}
    (hstep : (R ⇒ List.Forall₂ (Alike R)) step step) (limit : Nat) {text other : List Char}
    (h : R text other) : Alike R (rounds step limit text) (rounds step limit other) := by
  induction limit generalizing text other with
  | zero => exact alike_empty hR h
  | succ limit ih =>
    have hreadings := hstep h
    rw [rounds, rounds]
    cases htext : step text with
    | nil =>
      rw [htext, List.forall₂_nil_left_iff] at hreadings
      rw [hreadings]
      exact alike_empty hR h
    | cons r others =>
      rw [htext, List.forall₂_cons_left_iff] at hreadings
      obtain ⟨s, more, halike, -, hother⟩ := hreadings
      rw [hother]
      by_cases htaken : r.taken = []
      · have hnone := (hR.eq_nil_iff halike.taken).mp htaken
        simp only [htaken, hnone, if_true]
        exact alike_empty hR h
      · have hsome := mt (hR.eq_nil_iff halike.taken).mpr htaken
        simp only [htaken, hsome, if_false]
        exact halike.followedBy hR (ih halike.rest)

theorem rounds_nil {step : List Char → List (Reading ι)}
    (hstep : ∀ text, ∀ r ∈ step text, Splits text r) (limit : Nat) :
    rounds step limit [] = .empty [] := by
  cases limit with
  | zero => rfl
  | succ limit =>
    rw [rounds]
    split
    · rfl
    · next r others hr =>
      have hsplit : r.taken ++ r.rest = [] := hstep [] r (by simp [hr])
      rw [if_pos (List.append_eq_nil_iff.mp hsplit).1]

theorem rounds_limit {step : List Char → List (Reading ι)}
    (hstep : ∀ text, ∀ r ∈ step text, Splits text r) {limit more : Nat} {text : List Char}
    (hlimit : text.length ≤ limit) (hmore : text.length ≤ more) :
    rounds step limit text = rounds step more text := by
  induction limit generalizing more text with
  | zero =>
    obtain rfl : text = [] := List.length_eq_zero_iff.mp (by omega)
    rw [rounds_nil hstep, rounds_nil hstep]
  | succ limit ih =>
    cases more with
    | zero =>
      obtain rfl : text = [] := List.length_eq_zero_iff.mp (by omega)
      rw [rounds_nil hstep, rounds_nil hstep]
    | succ more =>
      rw [rounds, rounds]
      cases hr : step text with
      | nil => rfl
      | cons r others =>
        by_cases htaken : r.taken = []
        · simp [htaken]
        · have hsplit : r.taken ++ r.rest = text := hstep text r (by simp [hr])
          have hpos := List.length_pos_iff.mpr htaken
          have hlength := congrArg List.length hsplit
          rw [List.length_append] at hlength
          have hrest : rounds step limit r.rest = rounds step more r.rest :=
            ih (by omega) (by omega)
          simp only [htaken, if_false, hrest]

theorem Respects.many (hR : Congruent R) {round : Pattern ι} (h : Respects R round) :
    Respects R (many round) := by
  intro text other hrel
  have hsplits : ∀ text, ∀ r ∈ round.readings text, Splits text r := taken_append_rest round
  have hleft : text.length ≤ max text.length other.length := Nat.le_max_left _ _
  have hright : other.length ≤ max text.length other.length := Nat.le_max_right _ _
  rw [readings, readings, rounds_limit hsplits (Nat.le_refl _) hleft,
    rounds_limit hsplits (Nat.le_refl _) hright]
  exact .cons (rounds_alike hR h _ hrel) .nil

/-! ## Other patterns -/

theorem respects_nothing (hR : Congruent R) : Respects R (nothing : Pattern ι) :=
  fun _ _ h => .cons (alike_empty hR h) .nil

theorem Respects.seq (hR : Congruent R) {first second : Pattern ι} (hf : Respects R first)
    (hs : Respects R second) : Respects R (seq first second) := by
  intro text other h
  rw [readings, readings]
  refine List.rel_flatMap (hf h) fun r s halike => ?_
  exact List.rel_map (fun next last hnext => halike.followedBy hR hnext) (hs halike.rest)

theorem Respects.either {preferred other : Pattern ι} (hp : Respects R preferred)
    (ho : Respects R other) : Respects R (either preferred other) :=
  fun _ _ h => List.rel_append (hp h) (ho h)

theorem Respects.part {body : Pattern ι} (h : Respects R body) (name : ι) :
    Respects R (part name body) :=
  fun _ _ hrel => List.rel_map (fun _ _ halike => halike.named name) (h hrel)

theorem Respects.read? {p : Pattern ι} (h : Respects R p) {text other : List Char}
    (hrel : R text other) : Option.Rel (Alike R) (p.read? text) (p.read? other) := by
  have hreadings := h hrel
  unfold Pattern.read?
  generalize p.readings text = rs at hreadings
  generalize p.readings other = ss at hreadings
  cases hreadings with
  | nil => exact .none
  | cons hhead htail => exact .some hhead

end Pattern

end SchemaShell
