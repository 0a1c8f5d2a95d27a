import Mathlib.Data.List.Nodup
import SchemaShell.Launch.Program

/-!
# What is logged

A log filter has one rule for each start of names, the one that was given last, and the rule with the
longest start decides. Logging changes nothing of what a dialogue says. Without a specification, more is
logged when more is asked for.
-/

namespace SchemaShell.Launch

open Journal

variable {filter : LogFilter} {rule : Rule}

namespace LogFilter

/-! ## One rule for each start -/

theorem any_source_iff (filter : LogFilter) (source : Option String) :
    filter.rules.any (·.source == source) = true ↔ source ∈ filter.rules.map Rule.source := by
  simp only [List.any_eq_true, beq_iff_eq, List.mem_map]

theorem sources_withRule (filter : LogFilter) (rule : Rule) :
    (filter.withRule rule).rules.map Rule.source =
      if rule.source ∈ filter.rules.map Rule.source then filter.rules.map Rule.source
      else filter.rules.map Rule.source ++ [rule.source] := by
  rw [withRule]
  by_cases h : rule.source ∈ filter.rules.map Rule.source
  · rw [if_pos ((any_source_iff _ _).mpr h), if_pos h, List.map_map]
    refine List.map_congr_left fun r _ => ?_
    rw [Function.comp_apply]
    split
    · next hsame => exact hsame.symm
    · rfl
  · rw [if_neg (mt (any_source_iff _ _).mp h), if_neg h, List.map_append]
    rfl

theorem nodup_withRule (h : (filter.rules.map Rule.source).Nodup) (rule : Rule) :
    ((filter.withRule rule).rules.map Rule.source).Nodup := by
  rw [sources_withRule]
  split
  · exact h
  · next hnew => exact List.nodup_append.mpr ⟨h, List.nodup_singleton _, by grind⟩

theorem nodup_withParts (h : (filter.rules.map Rule.source).Nodup) (parts : List (List Char)) :
    ((filter.withParts parts).1.rules.map Rule.source).Nodup := by
  induction parts generalizing filter with
  | nil => exact h
  | cons part parts ih =>
    rw [withParts]
    cases parseRule part with
    | ok rule => exact ih (nodup_withRule h rule)
    | error what => exact ih h

/-- The rule for just this start. -/
def ruleFor? (filter : LogFilter) (source : Option String) : Option Rule :=
  filter.rules.find? (·.source == source)

theorem ruleFor?_withRule (filter : LogFilter) (rule : Rule) (source : Option String) :
    (filter.withRule rule).ruleFor? source =
      if rule.source = source then some rule else filter.ruleFor? source := by
  rw [withRule, ruleFor?, ruleFor?]
  by_cases hknown : rule.source ∈ filter.rules.map Rule.source
  · rw [if_pos ((any_source_iff _ _).mpr hknown), List.find?_map]
    have hsame : (fun r : Rule => r.source == source) ∘ (fun r => if r.source = rule.source then rule else r) =
        fun r => r.source == source := by
      funext r
      rw [Function.comp_apply]
      split
      · next h => rw [h]
      · rfl
    rw [hsame]
    cases hfind : filter.rules.find? (·.source == source) with
    | none =>
      rw [List.find?_eq_none] at hfind
      obtain ⟨r, hr, hsource⟩ := List.mem_map.mp hknown
      rw [if_neg fun heq => hfind r hr (by simp [hsource, heq])]
      rfl
    | some r =>
      have hr : r.source = source := by simpa using List.find?_some hfind
      simp only [Option.map_some, hr, eq_comm]
      split <;> rfl
  · rw [if_neg (mt (any_source_iff _ _).mp hknown), List.find?_append]
    by_cases hsource : rule.source = source
    · have hnone : filter.rules.find? (·.source == source) = none := by
        refine List.find?_eq_none.mpr fun r hr hfound => hknown ?_
        rw [hsource, ← beq_iff_eq.mp hfound]
        exact List.mem_map_of_mem hr
      simp [hnone, hsource]
    · simp [hsource]

/-- The rules that are written in parts of a specification. -/
def written (parts : List (List Char)) : List Rule :=
  parts.filterMap fun part => (parseRule part).toOption

/-- For each start the rule holds that was written last. -/
theorem ruleFor?_withParts (filter : LogFilter) (parts : List (List Char)) (source : Option String) :
    (filter.withParts parts).1.ruleFor? source =
      ((written parts).reverse.find? (·.source == source)).or (filter.ruleFor? source) := by
  induction parts generalizing filter with
  | nil => rfl
  | cons part parts ih =>
    cases hpart : parseRule part with
    | ok rule =>
      have hlast : (written (part :: parts)).reverse.find? (·.source == source) =
          ((written parts).reverse.find? (·.source == source)).or ([rule].find? (·.source == source)) := by
        rw [written, List.filterMap_cons, hpart, ← List.find?_append]
        exact congrArg (List.find? _) List.reverse_cons
      rw [withParts, hpart, hlast]
      dsimp only
      rw [ih, ruleFor?_withRule, Option.or_assoc]
      congr 1
      by_cases hsource : rule.source = source <;> simp [hsource]
    | error what =>
      have hlast : written (part :: parts) = written parts := by
        rw [written, List.filterMap_cons, hpart]
        rfl
      rw [withParts, hpart, hlast]
      exact ih filter

/-! ## Which rule decides -/

theorem mem_deciding? {source : String} (h : filter.deciding? source = some rule) :
    rule ∈ filter.rules ∧ rule.appliesTo source = true := by
  have hmem := List.mem_of_getLast? h
  rwa [List.mem_mergeSort, List.mem_filter] at hmem

theorem deciding?_eq_none_iff {source : String} :
    filter.deciding? source = none ↔ ∀ rule ∈ filter.rules, ¬ rule.appliesTo source = true := by
  rw [deciding?, List.getLast?_eq_none_iff, ← List.length_eq_zero_iff, List.length_mergeSort,
    List.length_eq_zero_iff, List.filter_eq_nil_iff]

theorem weight_le_deciding? {source : String} (h : filter.deciding? source = some rule) :
    ∀ other ∈ filter.rules, other.appliesTo source = true → other.weight ≤ rule.weight := by
  intro other hother happlies
  have hsorted : ((filter.rules.filter (·.appliesTo source)).mergeSort (·.weight ≤ ·.weight)).Pairwise
      fun a b => decide (a.weight ≤ b.weight) = true := by
    refine List.pairwise_mergeSort (fun a b c hab hbc => ?_) (fun a b => ?_) _
    · exact decide_eq_true (Nat.le_trans (of_decide_eq_true hab) (of_decide_eq_true hbc))
    · simpa using Nat.le_total a.weight b.weight
  obtain ⟨front, hfront⟩ := List.getLast?_eq_some_iff.mp h
  have hmem : other ∈ front ++ [rule] := by
    rw [← hfront, List.mem_mergeSort]
    exact List.mem_filter.mpr ⟨hother, happlies⟩
  rw [hfront, List.pairwise_append] at hsorted
  rcases List.mem_append.mp hmem with hmem | hmem
  · simpa using hsorted.2.2 other hmem rule (List.mem_singleton.mpr rfl)
  · obtain rfl := List.mem_singleton.mp hmem
    exact Nat.le_refl _

/-- A rule decides on a source if any applies to it, and then no other that applies has a longer start. -/
theorem heaviest_rule_decides (filter : LogFilter) (source : String) :
    (filter.deciding? source = none ↔ ∀ rule ∈ filter.rules, ¬ rule.appliesTo source = true) ∧
    ∀ rule, filter.deciding? source = some rule →
      rule ∈ filter.rules ∧ rule.appliesTo source = true ∧
        ∀ other ∈ filter.rules, other.appliesTo source = true → other.weight ≤ rule.weight :=
  ⟨deciding?_eq_none_iff, fun _ h => ⟨(mem_deciding? h).1, (mem_deciding? h).2, weight_le_deciding? h⟩⟩

end LogFilter

/-! ## The program -/

theorem passes_ofVerbosity (verbosity : Nat) (event : Event) :
    (LogFilter.ofVerbosity verbosity).passes event = (Threshold.ofVerbosity verbosity).admits event.level := by
  simp [LogFilter.ofVerbosity, LogFilter.passes, LogFilter.deciding?, Rule.appliesTo]

theorem Threshold.admits_ofVerbosity (verbosity : Nat) (level : Level) :
    (ofVerbosity verbosity).admits level = decide (level.rank ≤ verbosity + 2) := by
  match verbosity with
  | 0 | 1 | 2 => cases level <;> rfl
  | verbosity + 3 =>
    have hrank : level.rank ≤ 5 := by cases level <;> decide
    have hless : level.rank ≤ verbosity + 3 + 2 := by omega
    rw [decide_eq_true hless]
    exact decide_eq_true hrank

/-- Logging changes nothing of what the program writes to its output. -/
theorem output_runWith (options : Options) (world : World) (verbosity : Nat) (spec : Option String) :
    (runWith { options with verbosity := verbosity } { world with logSpec := spec }).output =
      (runWith options world).output := by
  have hinput : inputOf { options with verbosity := verbosity } { world with logSpec := spec } =
      inputOf options world := rfl
  rw [runWith, runWith, hinput]
  cases inputOf options world <;> rfl

/-- What is logged with a verbosity is logged with a greater one, too. -/
theorem errorLines_sublist (options : Options) {world : World} (h : world.logSpec = none) {verbosity : Nat}
    (hless : options.verbosity ≤ verbosity) :
    (runWith options world).errorLines.Sublist
      (runWith { options with verbosity := verbosity } world).errorLines := by
  have hinput : inputOf { options with verbosity := verbosity } world = inputOf options world := rfl
  have hmode : modeOf { options with verbosity := verbosity } = modeOf options := rfl
  have hpasses : ∀ event, (LogFilter.ofVerbosity options.verbosity).passes event = true →
      (LogFilter.ofVerbosity verbosity).passes event = true := by
    intro event
    simp only [passes_ofVerbosity, Threshold.admits_ofVerbosity, decide_eq_true_eq]
    omega
  rw [runWith, runWith, hinput, hmode, h]
  cases inputOf options world with
  | error reason => exact List.Sublist.refl _
  | ok input =>
    have hfilter := List.monotone_filter_right
      ((modeOf options).run .unlimited (.start ()) input).events hpasses
    exact (hfilter.map logLine).append_right _

end SchemaShell.Launch
