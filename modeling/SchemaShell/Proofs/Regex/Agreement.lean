import SchemaShell.Proofs.Pattern.Placed
import SchemaShell.Proofs.Regex.Spelling

/-!
# Preferred readings of expressions and of patterns

An expression and a pattern agree in front of what goes on if the first reading after which it does go on
is the same in both. A pattern takes whole runs and gives nothing back. That agrees with a greedy
expression where a character fewer of the run never helps: what goes on from a place goes on from behind
the next character of the class, too.
-/

namespace SchemaShell

variable {ι : Type} {number : ι → Nat}

/-- Some reading leaves a text from which it goes on. -/
def Pattern.reaches (p : Pattern ι) (next : List Char → Bool) (text : List Char) : Bool :=
  (p.readings text).any fun r => next r.rest

theorem Pattern.isSome_find?_readings (p : Pattern ι) (next : List Char → Bool) (text : List Char) :
    ((p.readings text).find? fun r => next r.rest).isSome = p.reaches next text := by
  rw [Bool.eq_iff_iff, List.find?_isSome, reaches, List.any_eq_true]

theorem Pattern.reaches_seq (p q : Pattern ι) (next : List Char → Bool) (text : List Char) :
    (seq p q).reaches next text = p.reaches (q.reaches next) text := by
  simp only [reaches, readings, List.any_flatMap, List.any_map]
  rfl

theorem Pattern.reaches_run_zero (cls : CharClass) (next : List Char → Bool) (text : List Char) :
    (run cls 0 : Pattern ι).reaches next text = next (text.dropWhile cls.holds) := by
  simp [reaches, readings, front_takeWhile]

namespace Regex.Matcher

variable {f g : Matcher} {p q : Pattern ι} {next : List Char → Bool}

/-- The first reading from which it goes on is the same. -/
def Agrees (f : Matcher) (number : ι → Nat) (p : Pattern ι) (next : List Char → Bool) : Prop :=
  ∀ before text, (f before text).find? (fun r => next r.rest) =
    ((p.readings text).find? fun r => next r.rest).map (·.relabel number)

theorem Agrees.congr (h : f.Agrees number p next) (hp : ∀ text, p.readings text = q.readings text) :
    f.Agrees number q next := by
  intro before text
  rw [h, hp]

theorem findSome?_eq_bind {α β : Type} (f : α → Option β) (xs : List α) :
    xs.findSome? f = (xs.find? fun x => (f x).isSome).bind f := by
  induction xs with
  | nil => rfl
  | cons x xs ih => cases h : f x <;> simp [h, ih]

theorem find?_andThen (f g : Matcher) (next : List Char → Bool) (before : Option Char) (text : List Char) :
    ((f.andThen g) before text).find? (fun r => next r.rest) =
      (f before text).findSome? fun r =>
        ((g (lastChar? before r) r.rest).find? fun s => next s.rest).map r.followedBy := by
  rw [Matcher.andThen, List.find?_flatMap]
  congr 1
  funext r
  rw [List.find?_map]
  rfl

theorem find?_andThen_of_agrees (f : Matcher) (hg : g.Agrees number q next) (before : Option Char)
    (text : List Char) :
    ((f.andThen g) before text).find? (fun r => next r.rest) =
      ((f before text).find? fun r => q.reaches next r.rest).bind fun r =>
        ((q.readings r.rest).find? fun s => next s.rest).map fun s => r.followedBy (s.relabel number) := by
  rw [find?_andThen]
  simp only [hg _ _, Option.map_map, findSome?_eq_bind, Option.isSome_map,
    q.isSome_find?_readings]
  rfl

theorem find?_readings_seq (p q : Pattern ι) (next : List Char → Bool) (text : List Char) :
    ((Pattern.seq p q).readings text).find? (fun r => next r.rest) =
      ((p.readings text).find? fun r => q.reaches next r.rest).bind fun r =>
        ((q.readings r.rest).find? fun s => next s.rest).map r.followedBy := by
  rw [Pattern.readings, List.find?_flatMap]
  simp only [List.find?_map, Function.comp_def, Reading.followedBy, findSome?_eq_bind, Option.isSome_map,
    q.isSome_find?_readings]

theorem Agrees.andThen (hf : f.Agrees number p (q.reaches next)) (hg : g.Agrees number q next) :
    (f.andThen g).Agrees number (.seq p q) next := by
  intro before text
  rw [find?_andThen_of_agrees f hg, find?_readings_seq, hf]
  cases (p.readings text).find? fun r => q.reaches next r.rest with
  | none => rfl
  | some r =>
    simp only [Option.map_some, Option.bind_some, Option.map_map, Reading.relabel]
    congr 1
    funext s
    exact (Reading.relabel_followedBy number r s).symm

theorem Agrees.orElse (hf : f.Agrees number p next) (hg : g.Agrees number q next) :
    (f.orElse g).Agrees number (.either p q) next := by
  intro before text
  rw [Matcher.orElse, Pattern.readings, List.find?_append, List.find?_append, hf, hg, Option.map_or]

theorem Agrees.captured (hf : f.Agrees number p next) (name : ι) :
    (f.captured (number name)).Agrees number (.part name p) next := by
  intro before text
  rw [Matcher.captured, Pattern.readings, List.find?_map, List.find?_map]
  change ((f before text).find? fun r => next r.rest).map _ =
    (((p.readings text).find? fun r => next r.rest).map _).map _
  rw [hf, Option.map_map, Option.map_map]
  rfl

/-- Where at most one text of the language can go on, and the pattern has a reading for it, all that the
expression can find is that reading. -/
theorem Spans.agrees (hf : f.Spans (p.language number))
    (hp : ∀ text parts rest, p.Derives text parts → next rest = true →
      (p.readings (text ++ rest)).find? (fun r => next r.rest) = some ⟨text, parts, rest⟩) :
    f.Agrees number p next := by
  intro before text
  cases hfind : (f before text).find? fun r => next r.rest with
  | none =>
    rw [List.find?_eq_none] at hfind
    symm
    rw [Option.map_eq_none_iff, List.find?_eq_none]
    intro r hr hnext
    refine hfind (r.relabel number) ((hf before text _).mpr ⟨?_, ?_⟩) hnext
    · exact Pattern.taken_append_rest p text r hr
    · exact ⟨r.parts, Pattern.derives_of_mem_readings p text r hr, rfl⟩
  | some r =>
    have hnext : next r.rest = true := by simpa using List.find?_some hfind
    obtain ⟨rfl, parts, hderives, hparts⟩ := (hf before text r).mp (List.mem_of_find?_eq_some hfind)
    rw [hp _ _ _ hderives hnext, Option.map_some, Reading.relabel]
    dsimp only
    rw [← hparts]

theorem find?_of_read? {text : List Char} {r : Reading ι} (h : p.read? text = some r)
    (hnext : next r.rest = true) : (p.readings text).find? (fun s => next s.rest) = some r := by
  obtain ⟨others, hread⟩ := List.head?_eq_some_iff.mp h
  simp [hread, hnext]

theorem Spans.agrees_of_read? (hf : f.Spans (p.language number))
    (hp : ∀ text parts rest, p.Derives text parts → next rest = true →
      p.read? (text ++ rest) = some ⟨text, parts, rest⟩) : f.Agrees number p next :=
  hf.agrees fun text parts rest hderives hnext => find?_of_read? (hp text parts rest hderives hnext) hnext

end Regex.Matcher

/-! ## Runs -/

/-- Whatever goes on from in front of a character of the class goes on from behind it. -/
def CharClass.Sheds (cls : CharClass) (next : List Char → Bool) : Prop :=
  ∀ c text, cls.holds c = true → next (c :: text) = true → next text = true

theorem CharClass.Sheds.dropWhile {cls : CharClass} {next : List Char → Bool} (h : cls.Sheds next)
    {text : List Char} (htext : next text = true) : next (text.dropWhile cls.holds) = true := by
  induction text with
  | nil => exact htext
  | cons c text ih =>
    rw [List.dropWhile_cons]
    split
    · next hc => exact ih (h c text hc htext)
    · exact htext

namespace Regex

open Pattern (front_takeWhile)

variable {cls : CharClass} {next : List Char → Bool}

theorem find?_readings_run (least : Nat) (text : List Char) :
    (((Pattern.run cls least : Pattern ι).readings text).find? fun r => next r.rest) =
      if least ≤ (text.takeWhile cls.holds).length ∧ next (text.dropWhile cls.holds) = true then
        some ⟨text.takeWhile cls.holds, [], text.dropWhile cls.holds⟩
      else none := by
  simp only [Pattern.readings, front_takeWhile]
  by_cases hleast : least ≤ (text.takeWhile cls.holds).length <;>
    by_cases hnext : next (text.dropWhile cls.holds) = true <;> simp [hleast, hnext]

theorem find?_rounds_one (hsheds : cls.Sheds next) {limit : Nat} (least : Nat) (before : Option Char)
    (text : List Char) (hlimit : text.length < limit) :
    (((step true cls.ranges).readings.rounds true limit least none before text).find? fun r =>
      next r.rest) =
      if least ≤ (text.takeWhile cls.holds).length ∧ next (text.dropWhile cls.holds) = true then
        some ⟨text.takeWhile cls.holds, [], text.dropWhile cls.holds⟩
      else none := by
  induction text generalizing limit least before with
  | nil =>
    obtain ⟨limit, rfl⟩ : ∃ n, limit = n + 1 := ⟨limit - 1, by omega⟩
    have hnone : (step true cls.ranges).readings before [] = [] := rfl
    rw [Matcher.rounds_succ (by simp [hnone]), hnone]
    by_cases hleast : least = 0 <;> by_cases hnext : next [] = true <;> simp [hleast, hnext, Reading.empty]
  | cons c text ih =>
    obtain ⟨limit, rfl⟩ : ∃ n, limit = n + 1 := ⟨limit - 1, by omega⟩
    by_cases hc : cls.holds c = true
    · have hone : (step true cls.ranges).readings before (c :: text) = [⟨[c], [], text⟩] := by
        simp [readings, CharClass.has_ranges, hc, Reading.front]
      rw [Matcher.rounds_succ (by simp [hone]), hone]
      simp only [if_true, List.flatMap_singleton, List.find?_append, List.find?_map, Function.comp_def,
        Reading.followedBy]
      rw [ih _ _ (by simpa using hlimit), List.takeWhile_cons_of_pos hc, List.dropWhile_cons_of_pos hc]
      -- Where a shorter run would do, the whole one does, so stopping here is of no use.
      have hstop : least = 0 → next (c :: text) = true → next (text.dropWhile cls.holds) = true :=
        fun _ hnext => hsheds.dropWhile (hsheds c text hc hnext)
      have hless : least - 1 ≤ (text.takeWhile cls.holds).length ↔
          least ≤ (c :: text.takeWhile cls.holds).length := by
        rw [List.length_cons]
        omega
      simp only [hless]
      by_cases hnext : next (text.dropWhile cls.holds) = true
      · by_cases hleast : least ≤ (c :: text.takeWhile cls.holds).length
        · have hboth : least ≤ (c :: text.takeWhile cls.holds).length ∧
              next (text.dropWhile cls.holds) = true := ⟨hleast, hnext⟩
          rw [if_pos hboth, if_pos hboth]
          rfl
        · have hnot : ¬ (least ≤ (c :: text.takeWhile cls.holds).length ∧
              next (text.dropWhile cls.holds) = true) := fun h => hleast h.1
          have hne : least ≠ 0 := by
            rintro rfl
            exact hleast (Nat.zero_le _)
          rw [if_neg hnot, if_neg hnot, if_neg hne]
          rfl
      · have hnot : ¬ (least ≤ (c :: text.takeWhile cls.holds).length ∧
            next (text.dropWhile cls.holds) = true) := fun h => hnext h.2
        rw [if_neg hnot, if_neg hnot, Option.map_none, Option.none_or]
        split
        · next hzero =>
          have hshort : next (c :: text) = false := by simpa using mt (hstop hzero) hnext
          simp [Reading.empty, hshort]
        · rfl
    · have hnone : (step true cls.ranges).readings before (c :: text) = [] := by
        simp [readings, CharClass.has_ranges, hc]
      rw [Matcher.rounds_succ (by simp [hnone]), hnone, List.takeWhile_cons_of_neg hc,
        List.dropWhile_cons_of_neg hc]
      by_cases hleast : least = 0 <;> by_cases hnext : next (c :: text) = true <;>
        simp [hleast, hnext, Reading.empty]

theorem agrees_run (number : ι → Nat) (hsheds : cls.Sheds next) (least : Nat) :
    (repeated least none true (step true cls.ranges)).readings.Agrees number (.run cls least) next := by
  intro before text
  rw [find?_readings_run, readings, find?_rounds_one hsheds least before text (by omega)]
  split <;> simp [Reading.relabel]

end Regex

/-! ## What is ahead -/

/-- What a text may begin with from which it goes on, `none` if it goes on from every text. -/
abbrev Ahead := Option (List Lead)

def Ahead.Admits (ahead : Ahead) (next : List Char → Bool) : Prop :=
  match ahead with
  | none => ∀ text, next text = true
  | some leads => ∀ text, next text = true → Lead.Before leads text

namespace Pattern

variable {p first second : Pattern ι} {next : List Char → Bool} {ahead : Ahead}

/-- What is ahead in front of a pattern. -/
def aheadOf (p : Pattern ι) (next : Ahead) : Ahead :=
  if p.mayVanish then next.map (p.leads ++ ·) else some p.leads

theorem readings_ne_nil_of_mayVanish (hp : p.isSpelled = true) (h : p.mayVanish = true) (text : List Char) :
    p.readings text ≠ [] := by
  induction p generalizing text with
  | nothing | many round ih => simp [readings]
  | mark c | one cls => cases h
  | keyword word =>
    have hword : word.toList = [] := by simpa [mayVanish] using h
    simp [readings, hword]
  | run cls least =>
    obtain rfl : least = 0 := by simpa [mayVanish] using h
    simp [readings]
  | shortRun cls short => cases hp
  | seq first second ih₁ ih₂ =>
    simp only [isSpelled, mayVanish, Bool.and_eq_true] at hp h
    obtain ⟨r, hr⟩ := List.exists_mem_of_ne_nil _ (ih₁ hp.1 h.1 text)
    obtain ⟨s, hs⟩ := List.exists_mem_of_ne_nil _ (ih₂ hp.2 h.2 r.rest)
    exact List.ne_nil_of_mem (List.mem_flatMap.mpr ⟨r, hr, List.mem_map_of_mem hs⟩)
  | either preferred other ih₁ ih₂ =>
    simp only [isSpelled, mayVanish, Bool.and_eq_true, Bool.or_eq_true] at hp h
    rw [readings, Ne, List.append_eq_nil_iff]
    rcases h with h | h
    · exact fun hnil => ih₁ hp.1 h text hnil.1
    · exact fun hnil => ih₂ hp.2 h text hnil.2
  | part name body ih => simpa [readings] using ih hp h text

theorem admits_reaches (hp : p.mayVanish = true → p.isSpelled = true) (h : ahead.Admits next) :
    (p.aheadOf ahead).Admits (p.reaches next) := by
  unfold aheadOf
  by_cases hvanish : p.mayVanish = true
  · rw [if_pos hvanish]
    cases ahead with
    | none =>
      intro text
      obtain ⟨r, hr⟩ := List.exists_mem_of_ne_nil _ (readings_ne_nil_of_mayVanish (hp hvanish) hvanish text)
      exact List.any_eq_true.mpr ⟨r, hr, h r.rest⟩
    | some leads =>
      intro text htext
      obtain ⟨r, hr, hnext⟩ := List.any_eq_true.mp htext
      rw [← taken_append_rest p text r hr]
      have hbefore := before_ahead_of_derives (derives_of_mem_readings p text r hr) (h r.rest hnext)
      rwa [Pattern.ahead, if_pos hvanish] at hbefore
  · rw [if_neg hvanish]
    intro text htext
    obtain ⟨r, hr, -⟩ := List.any_eq_true.mp htext
    have hderives := derives_of_mem_readings p text r hr
    have hne : r.taken ≠ [] := by
      intro hnil
      rw [hnil] at hderives
      exact hvanish (mayVanish_of_derives hderives)
    intro c hc
    rw [← taken_append_rest p text r hr, List.head?_append_of_ne_nil _ hne] at hc
    exact before_leads hderives c hc

/-- Each run ends where nothing that is ahead begins with a character of its class, or where everything
goes on. -/
def firm : Pattern ι → Ahead → Bool
  | nothing, _ | mark _, _ | one _, _ | keyword _, _ => true
  | run cls _, ahead => ahead.all (allApart [.one cls])
  | seq first second, ahead => first.firm (second.aheadOf ahead) && second.firm ahead
  | either preferred other, ahead => preferred.firm ahead && other.firm ahead
  | part _ body, ahead => body.firm ahead
  | shortRun .., _ | many _, _ => false

theorem sheds_of_admits {cls : CharClass} (hahead : ahead.all (allApart [.one cls]) = true)
    (h : ahead.Admits next) : cls.Sheds next := by
  intro c text hc hnext
  cases ahead with
  | none => exact h text
  | some leads =>
    refine absurd (h _ hnext) (not_before_of_allApart hahead ?_)
    exact Lead.before_cons.mpr ⟨.one cls, List.mem_singleton.mpr rfl, hc⟩

/-- An expression finds what the pattern that spells it reads, when the pattern is firm. -/
theorem agrees_regex (hp : p.isSpelled = true) (hfirm : p.firm ahead = true) (h : ahead.Admits next) :
    (p.regex number).readings.Agrees number p next := by
  induction p generalizing ahead next with
  | nothing | mark c | one cls | keyword word =>
    exact (spans_regex hp).agrees_of_read? fun text parts rest h _ =>
      read?_of_settled (show settled _ [.any] = true from rfl) h (Lead.before_any rest)
  | run cls least => exact Regex.agrees_run number (sheds_of_admits hfirm h) least
  | shortRun cls short => cases hfirm
  | seq first second ih₁ ih₂ =>
    simp only [isSpelled, firm, Bool.and_eq_true] at hp hfirm
    rw [readings_regex_seq]
    exact (ih₁ hp.1 hfirm.1 (admits_reaches (fun _ => hp.2) h)).andThen (ih₂ hp.2 hfirm.2 h)
  | either preferred other ih₁ ih₂ =>
    simp only [isSpelled, firm, Bool.and_eq_true] at hp hfirm
    rw [readings_regex_either]
    exact (ih₁ hp.1 hfirm.1 h).orElse (ih₂ hp.2 hfirm.2 h)
  | many round ih => cases hfirm
  | part name body ih => exact (ih hp hfirm h).captured name

end Pattern

/-! ## Searching -/

def anything : List Char → Bool :=
  fun _ => true

theorem admits_anything : Ahead.Admits none anything :=
  fun _ => rfl

namespace Regex

theorem readings_textStart (items : List Regex) (before : Option Char) (text : List Char) :
    (sequence (condition .textStart :: items)).readings before text =
      if before.isNone then chain items none text else [] := by
  rw [readings_sequence, chain_cons]
  cases before with
  | none => exact congrFun (congrFun (Matcher.nothing_andThen (chain items)) none) text
  | some c => rfl

theorem findFrom?_textStart (items : List Regex) (c : Char) (text : List Char) :
    (sequence (condition .textStart :: items)).findFrom? (some c) text = none := by
  induction text generalizing c with
  | nil => simp [findFrom?, readings_textStart]
  | cons d text ih => simp [findFrom?, readings_textStart, ih]

/-- What is found in a text is what the pattern reads at its front. -/
def Finds (regex : Regex) (number : ι → Nat) (p : Pattern ι) : Prop :=
  ∀ text, regex.find? text = (p.read? text).map fun r => (0, r.relabel number)

theorem finds_of_agrees (items : List Regex) {p : Pattern ι} (h : (chain items).Agrees number p anything) :
    (sequence (condition .textStart :: items)).Finds number p := by
  intro text
  have hhead : ∀ {α : Type} (xs : List α), (xs.find? fun _ => true) = xs.head? := by
    intro α xs
    cases xs <;> rfl
  have hread : (chain items none text).head? = (p.read? text).map (·.relabel number) := by
    simpa only [anything, Pattern.read?, hhead] using h none text
  have hfirst : ∀ xs : List (Reading Nat), xs.head? = (p.read? text).map (·.relabel number) →
      xs.head?.map (0, ·) = (p.read? text).map fun r => ((0 : Nat), r.relabel number) := by
    intro xs hxs
    rw [hxs, Option.map_map]
    rfl
  cases text with
  | nil => simpa [find?, findFrom?, readings_textStart] using hfirst _ hread
  | cons c text =>
    have hstart := readings_textStart items none (c :: text)
    rw [← hfirst _ hread, find?, findFrom?, hstart, findFrom?_textStart]
    cases chain items none (c :: text) <;> rfl

end Regex

end SchemaShell
