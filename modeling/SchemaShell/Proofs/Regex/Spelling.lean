import SchemaShell.Proofs.Regex.Language
import SchemaShell.Proofs.Text.Case

/-!
# Patterns spelled as expressions

A pattern without short runs spells an expression. The readings of the expression are all derivations of
the pattern, and the readings of the pattern are some of them.
-/

namespace SchemaShell

open Regex (Language)

/-! ## Spelling -/

namespace Regex

/-- A capital in either case. -/
def letter (c : Char) : Regex :=
  step true [(c.toNat, c.toNat), (c.toNat + 32, c.toNat + 32)]

def word (letters : List Char) : Regex :=
  sequence (letters.map letter)

end Regex

def CharClass.ranges : CharClass → Unicode.Ranges
  | blank => [(9, 13), (32, 32)]
  | letter => [(65, 90), (97, 122)]
  | digit => [(48, 57)]
  | alphanumeric => [(48, 57), (65, 90), (97, 122)]
  | alphanumericOrBlank => [(9, 13), (32, 32), (48, 57), (65, 90), (97, 122)]

namespace Pattern

variable {ι : Type} (number : ι → Nat)

/-- The expression that a pattern spells, with numbers for the names of its parts. -/
def regex : Pattern ι → Regex
  | nothing => .empty
  | mark c => .literal [c]
  | one cls => .step true cls.ranges
  | keyword word => .word word.toList
  | run cls least => .repeated least none true (.step true cls.ranges)
  | shortRun .. => .nothing
  | seq first second => .sequence [first.regex, second.regex]
  | either preferred nothing => .repeated 0 (some 1) true preferred.regex
  | either preferred other => .orElse preferred.regex other.regex
  | many round => .repeated 0 none true round.regex
  | part name body => .captured (number name) body.regex

/-- No run stops short, keywords are in capitals, and each round takes something. -/
def isSpelled : Pattern ι → Bool
  | nothing | mark _ | one _ | run .. => true
  | keyword word => word.toList.all Char.isUpper
  | shortRun .. => false
  | seq first second | either first second => first.isSpelled && second.isSpelled
  | many round => round.isSpelled && !round.mayVanish
  | part _ body => body.isSpelled

/-- The texts that a pattern derives, with numbers for the names of its parts. -/
def language (p : Pattern ι) : Language :=
  fun text parts => ∃ inner, p.Derives text inner ∧ parts = inner.map fun part => (number part.1, part.2)

end Pattern

/-! ## Characters -/

theorem CharClass.has_ranges (cls : CharClass) (c : Char) : cls.ranges.has c.toNat = cls.holds c := by
  rw [Bool.eq_iff_iff]
  cases cls <;>
    simp only [ranges, holds, Unicode.Ranges.has_cons, Unicode.Ranges.has_nil, Bool.and_eq_true,
      Bool.or_eq_true, decide_eq_true_eq, Bool.false_eq_true, or_false, Text.isBlank_iff,
      Text.isAlphanum_iff, Text.isAlpha_iff, Text.isDigit_iff] <;>
    omega

namespace Regex

theorem spans_one (cls : CharClass) :
    (step true cls.ranges).readings.Spans (.plain fun t => ∃ c, cls.holds c = true ∧ t = [c]) := by
  simpa only [CharClass.has_ranges] using @spans_step true cls.ranges

theorem spans_letter {c : Char} (hc : c.isUpper = true) :
    (letter c).readings.Spans (.plain fun t => ∃ d : Char, d.toUpper = c ∧ t = [d]) := by
  have hcapital := (Text.isUpper_iff c).mp hc
  have hcase : ∀ d : Char,
      Unicode.Ranges.has [(c.toNat, c.toNat), (c.toNat + 32, c.toNat + 32)] d.toNat = true ↔ d.toUpper = c := by
    intro d
    rw [← Char.toNat_inj, Text.toNat_toUpper]
    simp only [Unicode.Ranges.has_cons, Unicode.Ranges.has_nil, Bool.and_eq_true, Bool.or_eq_true,
      decide_eq_true_eq, Bool.false_eq_true, or_false]
    split <;> omega
  refine spans_step.congr fun text parts => ?_
  simp only [Language.plain, hcase]

theorem spans_word {letters : List Char} (h : letters.all Char.isUpper = true) :
    (word letters).readings.Spans (.plain fun t => t.map Char.toUpper = letters) := by
  rw [word, readings_sequence]
  induction letters with
  | nil => exact Matcher.spans_nothing.congr fun text parts => by simp [Language.plain]
  | cons c letters ih =>
    rw [List.all_cons, Bool.and_eq_true] at h
    refine ((spans_letter h.1).andThen (ih h.2)).congr fun text parts => ?_
    constructor
    · rintro ⟨_, back, _, _, ⟨⟨d, rfl, rfl⟩, rfl⟩, ⟨hback, rfl⟩, rfl, rfl⟩
      exact ⟨by simp [hback], rfl⟩
    · rintro ⟨htext, rfl⟩
      obtain ⟨d, back, rfl, hd, hback⟩ := List.map_eq_cons_iff.mp htext
      exact ⟨[d], back, [], [], ⟨⟨d, hd, rfl⟩, rfl⟩, ⟨hback, rfl⟩, rfl, rfl⟩

theorem spans_run (cls : CharClass) (least : Nat) :
    (repeated least none true (step true cls.ranges)).readings.Spans
      (.plain fun t => (∀ c ∈ t, cls.holds c = true) ∧ least ≤ t.length) := by
  refine (spans_repeated (spans_one cls) ?_ least true).congr fun text parts => ?_
  · rintro parts ⟨⟨c, -, hc⟩, -⟩
    cases hc
  · rw [Language.repeated_plain_singles, Language.plain, and_assoc]

theorem readings_optional (body : Regex) :
    (repeated 0 (some 1) true body).readings = body.readings.orElse .nothing := by
  funext before text
  have hround : ∀ r : Reading Nat, (body.readings.rounds true (1 + text.length) 0 (some 0)
      (Matcher.lastChar? before r) r.rest).map r.followedBy = [r] := by
    intro r
    rw [Nat.add_comm, Matcher.rounds]
    simp [Reading.followedBy_empty]
  have hmore : ((body.readings before text).flatMap fun r =>
      (body.readings.rounds true (1 + text.length) 0 (some 0) (Matcher.lastChar? before r) r.rest).map
        r.followedBy) = body.readings before text := by
    simp only [hround, List.flatMap_singleton']
  change body.readings.rounds true (0 + 1 + text.length + 1) 0 (some 1) before text = _
  rw [Matcher.rounds]
  simp only [Nat.zero_add, Option.some.injEq, Nat.one_ne_zero, if_false, reduceCtorEq, and_false, if_true,
    Option.map_some, Nat.sub_self, Nat.zero_sub, hmore]
  rfl

end Regex

/-! ## Patterns -/

namespace Pattern

variable {ι : Type} {number : ι → Nat} {p first second : Pattern ι}

theorem readings_regex_seq (number : ι → Nat) (p q : Pattern ι) :
    ((seq p q).regex number).readings =
      (p.regex number).readings.andThen (q.regex number).readings := by
  rw [regex, Regex.readings_sequence, Regex.chain_cons, Regex.chain_singleton]

theorem readings_regex_either (number : ι → Nat) (p q : Pattern ι) :
    ((either p q).regex number).readings =
      (p.regex number).readings.orElse (q.regex number).readings := by
  cases q with
  | nothing => exact Regex.readings_optional _
  | _ => rfl

theorem rounds_map_iff {round : List Char → List (ι × List Char) → Prop} {text : List Char}
    {parts : List (Nat × List Char)} :
    Rounds (fun t ps => ∃ inner, round t inner ∧ ps = inner.map fun part => (number part.1, part.2)) text parts ↔
      ∃ inner, Rounds round text inner ∧ parts = inner.map fun part => (number part.1, part.2) := by
  constructor
  · intro h
    induction h with
    | none => exact ⟨[], .none, rfl⟩
    | more hfirst hne _ ih =>
      obtain ⟨fronts, hfront, rfl⟩ := hfirst
      obtain ⟨backs, hback, rfl⟩ := ih
      exact ⟨fronts ++ backs, .more hfront hne hback, by rw [List.map_append]⟩
  · rintro ⟨inner, h, rfl⟩
    induction h with
    | none => exact .none
    | more hfirst hne _ ih =>
      rw [List.map_append]
      exact .more ⟨_, hfirst, rfl⟩ hne ih

theorem language_seq (text : List Char) (parts : List (Nat × List Char)) :
    (seq first second).language number text parts ↔
      ((first.language number).followedBy (second.language number)) text parts := by
  constructor
  · rintro ⟨_, ⟨front, back, fronts, backs, hfront, hback, rfl, rfl⟩, rfl⟩
    exact ⟨front, back, _, _, ⟨fronts, hfront, rfl⟩, ⟨backs, hback, rfl⟩, rfl, List.map_append⟩
  · rintro ⟨front, back, _, _, ⟨fronts, hfront, rfl⟩, ⟨backs, hback, rfl⟩, rfl, rfl⟩
    exact ⟨_, hfront.seq hback, List.map_append.symm⟩

theorem not_language_nil (hp : p.mayVanish = false) (parts : List (Nat × List Char)) :
    ¬ p.language number [] parts := by
  rintro ⟨inner, h, -⟩
  rw [mayVanish_of_derives h] at hp
  cases hp

theorem language_part (name : ι) (text : List Char) (parts : List (Nat × List Char)) :
    (part name p).language number text parts ↔
      ∃ inner, p.language number text inner ∧ parts = (number name, text) :: inner := by
  constructor
  · rintro ⟨_, ⟨inner, h, rfl⟩, rfl⟩
    exact ⟨_, ⟨inner, h, rfl⟩, rfl⟩
  · rintro ⟨_, ⟨inner, h, rfl⟩, rfl⟩
    exact ⟨_, ⟨inner, h, rfl⟩, rfl⟩

theorem spans_regex (hp : p.isSpelled = true) : (p.regex number).readings.Spans (p.language number) := by
  induction p with
  | nothing =>
    refine Regex.Matcher.spans_nothing.congr fun text parts => ?_
    simp [Language.plain, language, Derives]
  | mark c =>
    refine (Regex.spans_literal [c]).congr fun text parts => ?_
    simp [Language.plain, language, Derives]
  | one cls =>
    refine (Regex.spans_one cls).congr fun text parts => ?_
    simp [Language.plain, language, Derives]
  | keyword word =>
    refine (Regex.spans_word hp).congr fun text parts => ?_
    simp [Language.plain, language, Derives]
  | run cls least =>
    refine (Regex.spans_run cls least).congr fun text parts => ?_
    simp [Language.plain, language, Derives, and_assoc]
  | shortRun cls short => cases hp
  | seq first second ih₁ ih₂ =>
    simp only [isSpelled, Bool.and_eq_true] at hp
    rw [readings_regex_seq]
    exact ((ih₁ hp.1).andThen (ih₂ hp.2)).congr fun text parts => (language_seq text parts).symm
  | either preferred other ih₁ ih₂ =>
    simp only [isSpelled, Bool.and_eq_true] at hp
    rw [readings_regex_either]
    refine ((ih₁ hp.1).orElse (ih₂ hp.2)).congr fun text parts => ?_
    simp only [language, Derives, or_and_right, exists_or]
  | many round ih =>
    simp only [isSpelled, Bool.and_eq_true, Bool.not_eq_true'] at hp
    exact (Regex.spans_repeated (ih hp.1) (not_language_nil hp.2) 0 true).congr fun text parts => rounds_map_iff
  | part name body ih =>
    exact ((ih hp).captured (number name)).congr fun text parts => (language_part name text parts).symm

/-- An expression may be spelled as a pattern and stand for another one with the same texts. -/
theorem spans_of_derives_iff {q : Pattern ι} (hp : p.isSpelled = true)
    (h : ∀ text parts, p.Derives text parts ↔ q.Derives text parts) :
    (p.regex number).readings.Spans (q.language number) :=
  (spans_regex hp).congr fun text _ => exists_congr fun inner => and_congr_left fun _ => h text inner

theorem spans_oneOrMore (hp : p.isSpelled = true) (hvanish : p.mayVanish = false) :
    (Regex.repeated 1 none true (p.regex number)).readings.Spans ((oneOrMore p).language number) := by
  have hmore : Rounds (p.language number) = (many p).language number := by
    funext text parts
    exact propext rounds_map_iff
  refine (Regex.spans_repeated (spans_regex hp) (not_language_nil hvanish) 1 true).congr fun text parts => ?_
  rw [oneOrMore, language_seq, ← hmore]
  rfl

theorem spans_part_oneOrMore {q : Pattern ι} {name : ι} (hp : p.isSpelled = true) (hvanish : p.mayVanish = false)
    (h : ∀ text parts, (part name (oneOrMore p)).Derives text parts ↔ q.Derives text parts) :
    (Regex.captured (number name) (.repeated 1 none true (p.regex number))).readings.Spans
      (q.language number) := by
  refine ((spans_oneOrMore hp hvanish).captured (number name)).congr fun text parts => ?_
  rw [← language_part]
  exact exists_congr fun inner => and_congr_left fun _ => h text inner

end Pattern

end SchemaShell
