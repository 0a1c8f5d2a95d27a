import SchemaShell.Proofs.Pattern.Language
import SchemaShell.Proofs.Regex.Chain

/-!
# The languages of expressions

An expression gives back what it took whenever what follows needs it, so its readings are all the ways to
take a text of its language. Their order plays no part here.
-/

namespace SchemaShell.Regex

open Pattern (Rounds)

/-! ## Languages -/

/-- Texts, with the parts that are named in them. -/
abbrev Language := List Char → List (Nat × List Char) → Prop

namespace Language

/-- Texts of a kind in which nothing is named. -/
def plain (holds : List Char → Prop) : Language :=
  fun text parts => holds text ∧ parts = []

def followedBy (first second : Language) : Language :=
  fun text parts => ∃ front back fronts backs, first front fronts ∧ second back backs ∧
    text = front ++ back ∧ parts = fronts ++ backs

/-- At least so many rounds. -/
def repeated (round : Language) : Nat → Language
  | 0 => Rounds round
  | least + 1 => round.followedBy (round.repeated least)

/-- No round, or one and then the others. -/
theorem repeated_iff {round : Language} (hvanish : ∀ parts, ¬ round [] parts) {least : Nat} {text : List Char}
    {parts : List (Nat × List Char)} :
    round.repeated least text parts ↔
      (least = 0 ∧ text = [] ∧ parts = []) ∨
        ∃ front back fronts backs, front ≠ [] ∧ round front fronts ∧ round.repeated (least - 1) back backs ∧
          text = front ++ back ∧ parts = fronts ++ backs := by
  cases least with
  | zero =>
    constructor
    · rintro (_ | ⟨hfront, hne, hback⟩)
      · exact Or.inl ⟨rfl, rfl, rfl⟩
      · exact Or.inr ⟨_, _, _, _, hne, hfront, hback, rfl, rfl⟩
    · rintro (⟨-, rfl, rfl⟩ | ⟨front, back, fronts, backs, hne, hfront, hback, rfl, rfl⟩)
      · exact .none
      · exact .more hfront hne hback
  | succ least =>
    constructor
    · rintro ⟨front, back, fronts, backs, hfront, hback, rfl, rfl⟩
      refine Or.inr ⟨front, back, fronts, backs, ?_, hfront, hback, rfl, rfl⟩
      rintro rfl
      exact hvanish _ hfront
    · rintro (⟨hzero, -⟩ | ⟨front, back, fronts, backs, -, hfront, hback, rfl, rfl⟩)
      · cases hzero
      · exact ⟨front, back, fronts, backs, hfront, hback, rfl, rfl⟩

theorem repeated_plain_singles (holds : Char → Prop) (least : Nat) (text : List Char)
    (parts : List (Nat × List Char)) :
    (plain fun t => ∃ c, holds c ∧ t = [c]).repeated least text parts ↔
      (∀ c ∈ text, holds c) ∧ least ≤ text.length ∧ parts = [] := by
  induction least generalizing text parts with
  | zero =>
    constructor
    · intro h
      induction h with
      | none => simp
      | more first _ _ ih =>
        obtain ⟨⟨c, hc, rfl⟩, rfl⟩ := first
        exact ⟨by simpa [hc] using ih.1, Nat.zero_le _, by simp [ih.2.2]⟩
    · rintro ⟨htext, -, rfl⟩
      induction text with
      | nil => exact .none
      | cons c text ih =>
        rw [List.forall_mem_cons] at htext
        exact .more ⟨⟨c, htext.1, rfl⟩, rfl⟩ (by simp) (ih htext.2)
  | succ least ih =>
    constructor
    · rintro ⟨_, back, _, _, ⟨⟨c, hc, rfl⟩, rfl⟩, hback, rfl, rfl⟩
      obtain ⟨hall, hleast, rfl⟩ := (ih back _).mp hback
      exact ⟨by simpa [hc] using hall, by simp; omega, rfl⟩
    · rintro ⟨htext, hleast, rfl⟩
      cases text with
      | nil => simp at hleast
      | cons c text =>
        rw [List.forall_mem_cons] at htext
        exact ⟨[c], text, [], [], ⟨⟨c, htext.1, rfl⟩, rfl⟩,
          (ih text []).mpr ⟨htext.2, by simpa using hleast, rfl⟩, rfl, rfl⟩

end Language

namespace Matcher

/-- The readings are just those that take a text of the language. -/
def Spans (f : Matcher) (language : Language) : Prop :=
  ∀ before text r, r ∈ f before text ↔ r.taken ++ r.rest = text ∧ language r.taken r.parts

variable {f g : Matcher} {first second language : Language}

theorem Spans.congr (hf : f.Spans first) (h : ∀ text parts, first text parts ↔ second text parts) :
    f.Spans second := by
  intro before text r
  rw [hf, h]

theorem spans_nothing : nothing.Spans (.plain (· = [])) := by
  rintro before text ⟨taken, parts, rest⟩
  simp only [nothing, List.mem_singleton, Reading.empty, Reading.mk.injEq, Language.plain]
  constructor
  · rintro ⟨rfl, rfl, rfl⟩
    exact ⟨rfl, rfl, rfl⟩
  · rintro ⟨rfl, rfl, rfl⟩
    exact ⟨rfl, rfl, rfl⟩

theorem Spans.andThen (hf : f.Spans first) (hg : g.Spans second) :
    (f.andThen g).Spans (first.followedBy second) := by
  intro before text r
  simp only [Matcher.andThen, List.mem_flatMap, List.mem_map]
  constructor
  · rintro ⟨r, hr, s, hs, rfl⟩
    obtain ⟨rfl, hfront⟩ := (hf _ _ _).mp hr
    obtain ⟨hrest, hback⟩ := (hg _ _ _).mp hs
    refine ⟨?_, r.taken, s.taken, r.parts, s.parts, hfront, hback, rfl, rfl⟩
    rw [Reading.followedBy, List.append_assoc, hrest]
  · rintro ⟨rfl, front, back, fronts, backs, hfront, hback, htaken, hparts⟩
    refine ⟨⟨front, fronts, back ++ r.rest⟩, (hf _ _ _).mpr ⟨?_, hfront⟩,
      ⟨back, backs, r.rest⟩, (hg _ _ _).mpr ⟨rfl, hback⟩, ?_⟩
    · rw [htaken, List.append_assoc]
    · rw [Reading.followedBy, ← htaken, ← hparts]

theorem Spans.orElse (hf : f.Spans first) (hg : g.Spans second) :
    (f.orElse g).Spans fun text parts => first text parts ∨ second text parts := by
  intro before text r
  rw [Matcher.orElse, List.mem_append, hf, hg, and_or_left]

theorem Spans.captured (hf : f.Spans language) (number : Nat) :
    (f.captured number).Spans fun text parts =>
      ∃ inner, language text inner ∧ parts = (number, text) :: inner := by
  intro before text r
  simp only [Matcher.captured, List.mem_map]
  constructor
  · rintro ⟨r, hr, rfl⟩
    obtain ⟨htext, hr⟩ := (hf _ _ _).mp hr
    exact ⟨htext, r.parts, hr, rfl⟩
  · rintro ⟨htext, inner, hr, hparts⟩
    exact ⟨⟨r.taken, inner, r.rest⟩, (hf _ _ _).mpr ⟨htext, hr⟩, by rw [Reading.named, ← hparts]⟩

theorem Spans.taken_ne_nil (hf : f.Spans language) (hvanish : ∀ parts, ¬ language [] parts)
    {before : Option Char} {text : List Char} {r : Reading Nat} (hr : r ∈ f before text) : r.taken ≠ [] := by
  intro hnil
  have hlanguage := ((hf _ _ _).mp hr).2
  rw [hnil] at hlanguage
  exact hvanish _ hlanguage

theorem Spans.rest_length_lt (hf : f.Spans language) (hvanish : ∀ parts, ¬ language [] parts)
    {before : Option Char} {text : List Char} {r : Reading Nat} (hr : r ∈ f before text) :
    r.rest.length < text.length := by
  have hsplit := congrArg List.length ((hf _ _ _).mp hr).1
  have hpos := List.length_pos_iff.mpr (hf.taken_ne_nil hvanish hr)
  rw [List.length_append] at hsplit
  omega

/-! ## Rounds -/

theorem rounds_succ {greedy : Bool} {limit least : Nat} {before : Option Char} {text : List Char}
    (hvanish : ∀ r ∈ f before text, r.taken ≠ []) :
    rounds f greedy (limit + 1) least none before text =
      let more := (f before text).flatMap fun r =>
        (rounds f greedy limit (least - 1) none (lastChar? before r) r.rest).map r.followedBy
      let stop := if least = 0 then [Reading.empty text] else []
      if greedy then more ++ stop else stop ++ more := by
  have hmore : ((f before text).flatMap fun r =>
      if r.taken = [] ∧ least ≤ 1 ∧ (none : Option Nat) = none then [r]
      else
        (rounds f greedy limit (least - 1) (none.map (· - 1)) (lastChar? before r) r.rest).map r.followedBy) =
      (f before text).flatMap fun r =>
        (rounds f greedy limit (least - 1) none (lastChar? before r) r.rest).map r.followedBy :=
    List.flatMap_congr fun r hr => if_neg fun h => hvanish r hr h.1
  rw [rounds]
  dsimp only
  rw [if_neg (Option.some_ne_none 0).symm, hmore]

theorem mem_rounds_succ_iff {greedy : Bool} {limit least : Nat} {before : Option Char} {text : List Char}
    {r : Reading Nat} (hvanish : ∀ s ∈ f before text, s.taken ≠ []) :
    r ∈ rounds f greedy (limit + 1) least none before text ↔
      (least = 0 ∧ r = .empty text) ∨ ∃ s ∈ f before text,
        ∃ t ∈ rounds f greedy limit (least - 1) none (lastChar? before s) s.rest, r = s.followedBy t := by
  have hstop : r ∈ (if least = 0 then [Reading.empty text] else []) ↔ least = 0 ∧ r = .empty text := by
    split <;> simp [*]
  have hmore : (r ∈ (f before text).flatMap fun s =>
      (rounds f greedy limit (least - 1) none (lastChar? before s) s.rest).map s.followedBy) ↔
      ∃ s ∈ f before text,
        ∃ t ∈ rounds f greedy limit (least - 1) none (lastChar? before s) s.rest, r = s.followedBy t := by
    simp only [List.mem_flatMap, List.mem_map, eq_comm]
  rw [rounds_succ hvanish]
  cases greedy with
  | true => exact List.mem_append.trans ((or_congr hmore hstop).trans or_comm)
  | false => exact List.mem_append.trans (or_congr hstop hmore)

theorem mem_rounds_iff (hf : f.Spans language) (hvanish : ∀ parts, ¬ language [] parts) {greedy : Bool}
    {limit least : Nat} {before : Option Char} {text : List Char} {r : Reading Nat}
    (hlimit : text.length < limit) :
    r ∈ rounds f greedy limit least none before text ↔
      r.taken ++ r.rest = text ∧ language.repeated least r.taken r.parts := by
  induction limit generalizing least before text r with
  | zero => omega
  | succ limit ih =>
    have hround : ∀ s ∈ f before text, s.rest.length < limit := by
      intro s hs
      have hshorter := hf.rest_length_lt hvanish hs
      omega
    rw [mem_rounds_succ_iff fun s => hf.taken_ne_nil hvanish, Language.repeated_iff hvanish, and_or_left]
    refine or_congr ?_ ?_
    · constructor
      · rintro ⟨hleast, rfl⟩
        exact ⟨rfl, hleast, rfl, rfl⟩
      · rintro ⟨htext, hleast, htaken, hparts⟩
        obtain ⟨taken, parts, rest⟩ := r
        exact ⟨hleast, by rw [← htext, show taken = [] from htaken, show parts = [] from hparts]; rfl⟩
    · -- A round, and then those that the hypothesis of the induction speaks of.
      constructor
      · rintro ⟨s, hs, t, ht, rfl⟩
        obtain ⟨hrest, hback⟩ := (ih (hround s hs)).mp ht
        obtain ⟨rfl, hfront⟩ := (hf _ _ _).mp hs
        refine ⟨?_, s.taken, t.taken, s.parts, t.parts, hf.taken_ne_nil hvanish hs, hfront, hback, rfl, rfl⟩
        rw [Reading.followedBy, List.append_assoc, hrest]
      · rintro ⟨rfl, front, back, fronts, backs, -, hfront, hback, htext, hparts⟩
        have hs : (⟨front, fronts, back ++ r.rest⟩ : Reading Nat) ∈ f before (r.taken ++ r.rest) := by
          rw [hf]
          exact ⟨by rw [htext, List.append_assoc], hfront⟩
        refine ⟨_, hs, ⟨back, backs, r.rest⟩, (ih (hround _ hs)).mpr ⟨rfl, hback⟩, ?_⟩
        rw [Reading.followedBy, ← htext, ← hparts]

end Matcher

theorem spans_repeated {body : Regex} {language : Language} (hbody : body.readings.Spans language)
    (hvanish : ∀ parts, ¬ language [] parts) (least : Nat) (greedy : Bool) :
    (repeated least none greedy body).readings.Spans (language.repeated least) := by
  intro before text r
  rw [readings]
  exact Matcher.mem_rounds_iff hbody hvanish (by omega)

/-! ## Characters -/

theorem spans_literal (chars : List Char) : (literal chars).readings.Spans (.plain (· = chars)) := by
  rintro before text ⟨taken, parts, rest⟩
  simp only [readings, Language.plain]
  split
  · next h =>
    simp only [List.mem_singleton, Reading.front, h, Reading.mk.injEq]
    constructor
    · rintro ⟨rfl, rfl, rfl⟩
      refine ⟨?_, rfl, rfl⟩
      conv => lhs; lhs; rw [← h]
      exact List.take_append_drop _ _
    · rintro ⟨rfl, rfl, rfl⟩
      simp
  · next h =>
    simp only [List.not_mem_nil, false_iff]
    rintro ⟨rfl, rfl, -⟩
    simp at h

theorem spans_step {ascii : Bool} {set : Unicode.Ranges} :
    (step ascii set).readings.Spans (.plain fun t => ∃ c : Char, set.has c.toNat = true ∧ t = [c]) := by
  rintro before text ⟨taken, parts, rest⟩
  simp only [readings, Language.plain]
  cases text with
  | nil =>
    simp only [List.take_nil, List.any_nil, Bool.false_eq_true, if_false, List.not_mem_nil, false_iff]
    rintro ⟨htext, ⟨c, -, rfl⟩, -⟩
    simp at htext
  | cons d text =>
    simp only [List.take_succ_cons, List.take_zero, List.any_cons, List.any_nil, Bool.or_false]
    constructor
    · intro h
      split at h
      · next hd =>
        simp only [List.mem_singleton, Reading.front, List.take_succ_cons, List.take_zero, List.drop_succ_cons,
          List.drop_zero, Reading.mk.injEq] at h
        obtain ⟨rfl, rfl, rfl⟩ := h
        exact ⟨rfl, ⟨d, hd, rfl⟩, rfl⟩
      · cases h
    · rintro ⟨htext, ⟨c, hc, rfl⟩, rfl⟩
      obtain ⟨rfl, rfl⟩ := List.cons.inj htext
      simp [hc, Reading.front]

end SchemaShell.Regex
