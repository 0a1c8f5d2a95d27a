import Mathlib.Data.List.Basic
import SchemaShell.Proofs.Pattern.Sequence
import SchemaShell.Regex.Readings

/-!
# Chains of expressions

A chain is read part by part, however the parts are nested, and literals that were made into one are
read like the characters that they are made of.
-/

namespace SchemaShell.Regex

/-! ## Matchers in a row -/

namespace Matcher

variable (f g h : Matcher)

theorem lastChar?_followedBy (before : Option Char) (r s : Reading Nat) :
    lastChar? before (r.followedBy s) = lastChar? (lastChar? before r) s := by
  simp only [lastChar?, Reading.followedBy, List.getLast?_append, Option.or_assoc]

theorem andThen_assoc : (f.andThen g).andThen h = f.andThen (g.andThen h) := by
  funext before text
  simp only [andThen, List.flatMap_assoc, List.flatMap_map, List.map_flatMap, List.map_map]
  refine List.flatMap_congr fun r _ => List.flatMap_congr fun s _ => ?_
  rw [lastChar?_followedBy]
  exact List.map_congr_left fun t _ => Reading.followedBy_assoc r s t

@[simp] theorem nothing_andThen : nothing.andThen f = f := by
  funext before text
  simp only [andThen, nothing, List.flatMap_singleton, Reading.empty, lastChar?, List.getLast?_nil,
    Option.none_or]
  exact List.map_id _

@[simp] theorem andThen_nothing : f.andThen nothing = f := by
  funext before text
  simp [andThen, nothing, Reading.followedBy_empty]

/-- Several one after the other. -/
def inOrder (matchers : List Matcher) : Matcher :=
  matchers.foldr andThen nothing

@[simp] theorem inOrder_cons (matchers : List Matcher) :
    inOrder (f :: matchers) = f.andThen (inOrder matchers) := rfl

theorem inOrder_append (matchers others : List Matcher) :
    inOrder (matchers ++ others) = (inOrder matchers).andThen (inOrder others) := by
  induction matchers with
  | nil => exact (nothing_andThen _).symm
  | cons f matchers ih => simp only [List.cons_append, inOrder_cons, ih, andThen_assoc]

end Matcher

/-! ## Chains -/

/-- The readings of expressions in a row. -/
def chain (items : List Regex) : Matcher :=
  .inOrder (items.map readings)

theorem chain_cons (item : Regex) (items : List Regex) :
    chain (item :: items) = item.readings.andThen (chain items) := rfl

theorem chain_singleton (item : Regex) : chain [item] = item.readings :=
  Matcher.andThen_nothing _

theorem chain_append (items others : List Regex) :
    chain (items ++ others) = (chain items).andThen (chain others) := by
  rw [chain, List.map_append, Matcher.inOrder_append]
  rfl

theorem chain_parts (regex : Regex) : chain regex.parts = regex.readings := by
  induction regex with
  | empty => rfl
  | andThen first rest _ ih => rw [parts, chain_cons, ih]; rfl
  | literal | step | condition | captured | repeated | orElse => exact Matcher.andThen_nothing _

theorem chain_flatMap_parts (items : List Regex) : chain (items.flatMap parts) = chain items := by
  induction items with
  | nil => rfl
  | cons item items ih => rw [List.flatMap_cons, chain_append, chain_parts, ih, chain_cons]

theorem front_followedBy_front (n m : Nat) (text : List Char) :
    (Reading.front n text : Reading Nat).followedBy (.front m (text.drop n)) = .front (n + m) text := by
  simp only [Reading.front, Reading.followedBy, List.drop_drop, List.take_add, List.append_nil]

theorem readings_literal_append (chars others : List Char) :
    (literal (chars ++ others)).readings = (literal chars).readings.andThen (literal others).readings := by
  funext before text
  simp only [readings, Matcher.andThen, List.length_append, List.take_add]
  by_cases hchars : text.take chars.length = chars
  · by_cases hothers : (text.drop chars.length).take others.length = others
    · have hfront := front_followedBy_front chars.length others.length text
      simp only [hchars, hothers, if_true, List.flatMap_singleton, ← hfront]
      simp [Reading.front, hothers]
    · simp [Reading.front, hchars, hothers]
  · have hne : text.take chars.length ++ (text.drop chars.length).take others.length ≠ chars ++ others := by
      intro heq
      have hlen := congrArg List.length heq
      simp only [List.length_append, List.length_take, List.length_drop] at hlen
      refine hchars (List.append_inj_left heq ?_)
      simp only [List.length_take]
      omega
    simp [hchars, hne]

theorem chain_joinLiterals (items : List Regex) : chain (joinLiterals items) = chain items := by
  fun_induction joinLiterals items with
  | case1 => rfl
  | case2 chars rest next others hrest ih =>
    rw [chain_cons, readings_literal_append, Matcher.andThen_assoc, ← chain_cons, ← hrest, ih, chain_cons]
  | case3 chars rest _ ih => rw [chain_cons, ih, chain_cons]
  | case4 item rest _ ih => rw [chain_cons, ih, chain_cons]

theorem readings_ofParts (items : List Regex) : (ofParts items).readings = chain items := by
  fun_induction ofParts items with
  | case1 => rfl
  | case2 item => exact (Matcher.andThen_nothing _).symm
  | case3 item rest _ ih => rw [readings, ih, chain_cons]

theorem readings_sequence (items : List Regex) : (sequence items).readings = chain items := by
  rw [sequence, readings_ofParts, chain_joinLiterals, chain_flatMap_parts]

end SchemaShell.Regex
