import Mathlib.Data.List.Find
import SchemaShell.Proofs.Regex.Agreement

/-!
# Expressions that take all of a class

An expression that ends in a greedy run takes all the characters of the class that it can get, as long as
what follows it can do without them. A loop over such an expression does so, too, when no round begins with
a character of the class.
-/

namespace SchemaShell.Regex

/-- The text does not begin with a character of the class. -/
def stopped (cls : CharClass) (text : List Char) : Bool :=
  !text.head?.any cls.holds

namespace Matcher

variable {f g : Matcher} {cls : CharClass} {next : List Char → Bool} {language : Language}

/-- What is found leaves no character of the class at the front, unless what follows needs it. -/
def TakesAll (f : Matcher) (cls : CharClass) : Prop :=
  ∀ next, cls.Sheds next → ∀ before text, (f before text).find? (fun r => next r.rest) =
    (f before text).find? fun r => next r.rest && stopped cls r.rest

theorem TakesAll.andThen (hg : g.TakesAll cls) : (f.andThen g).TakesAll cls := by
  intro next hsheds before text
  simp only [find?_andThen f g next, find?_andThen f g fun rest => next rest && stopped cls rest,
    hg next hsheds]

theorem TakesAll.captured (hf : f.TakesAll cls) (number : Nat) : (f.captured number).TakesAll cls := by
  intro next hsheds before text
  simp only [Matcher.captured, List.find?_map]
  exact congrArg _ (hf next hsheds before text)

theorem takesAll_run (cls : CharClass) (least : Nat) :
    (repeated least none true (step true cls.ranges)).readings.TakesAll cls := by
  intro next hsheds before text
  have hstopped : cls.Sheds fun rest => next rest && stopped cls rest := by
    intro c text hc h
    simp [stopped, hc] at h
  have hlimit : text.length < least + (none : Option Nat).getD 0 + text.length + 1 := by omega
  have hend : stopped cls (text.dropWhile cls.holds) = true := by
    have hhead := List.head?_dropWhile_not cls.holds text
    rw [stopped]
    cases h : (text.dropWhile cls.holds).head? with
    | none => rfl
    | some c => simpa [h] using hhead
  rw [readings]
  simp only [find?_rounds_one hsheds least before text hlimit,
    find?_rounds_one hstopped least before text hlimit, hend, Bool.and_true]

/-! ## Loops -/

section Loops

variable (hf : f.Spans language) (hvanish : ∀ parts, ¬ language [] parts) (htakes : f.TakesAll cls)
  (hstart : ∀ before c text, cls.holds c = true → f before (c :: text) = [])

include hf hvanish

theorem rounds_zero_succ (limit : Nat) (before : Option Char) (text : List Char) :
    rounds f true (limit + 1) 0 none before text =
      (f.andThen (rounds f true limit 0 none)) before text ++ [.empty text] :=
  rounds_succ fun _ hr => hf.taken_ne_nil hvanish hr

theorem empty_mem_rounds (limit : Nat) (before : Option Char) (text : List Char) :
    .empty text ∈ rounds f true limit 0 none before text := by
  cases limit with
  | zero => exact List.mem_singleton.mpr rfl
  | succ limit => simp [rounds_zero_succ hf hvanish]

theorem any_rounds {limit : Nat} {text : List Char} (hlimit : text.length < limit) (before : Option Char)
    (next : List Char → Bool) :
    (rounds f true limit 0 none before text).any (fun r => next r.rest) =
      (rounds f true limit 0 none none text).any fun r => next r.rest := by
  rw [Bool.eq_iff_iff, List.any_eq_true, List.any_eq_true]
  simp only [mem_rounds_iff hf hvanish hlimit]

include hstart

theorem rounds_of_holds {c : Char} (hc : cls.holds c = true) (limit : Nat) (before : Option Char)
    (text : List Char) : rounds f true limit 0 none before (c :: text) = [.empty (c :: text)] := by
  cases limit with
  | zero => rfl
  | succ limit => simp [rounds_zero_succ hf hvanish, Matcher.andThen, hstart before c text hc]

theorem sheds_rounds (limit : Nat) (hsheds : cls.Sheds next) :
    cls.Sheds fun text => (rounds f true limit 0 none none text).any fun r => next r.rest := by
  intro c text hc h
  simp only [rounds_of_holds hf hvanish hstart hc, List.any_cons, List.any_nil, Bool.or_false] at h
  exact List.any_eq_true.mpr ⟨_, empty_mem_rounds hf hvanish limit none text, hsheds c text hc h⟩

include htakes

/-- A round, and then what a loop finds behind it. -/
theorem find?_round_andThen {limit : Nat} (hsheds : cls.Sheds next)
    (hloop : ∀ before text, text.length < limit → stopped cls text = true →
      (rounds f true limit 0 none before text).find? (fun r => next r.rest) =
        (rounds f true limit 0 none before text).find? fun r => next r.rest && stopped cls r.rest)
    (before : Option Char) {text : List Char} (htext : text.length ≤ limit) :
    ((f.andThen (rounds f true limit 0 none)) before text).find? (fun r => next r.rest) =
      ((f.andThen (rounds f true limit 0 none)) before text).find? fun r => next r.rest && stopped cls r.rest := by
  let last : List Char → Bool := fun rest => next rest && stopped cls rest
  have hlast : cls.Sheds last := by
    intro c rest hc h
    simp [last, stopped, hc] at h
  let more (goal : List Char → Bool) (r : Reading Nat) : Option (Reading Nat) :=
    ((rounds f true limit 0 none (lastChar? before r) r.rest).find? fun s => goal s.rest).map r.followedBy
  let reaches (goal : List Char → Bool) (rest : List Char) : Bool :=
    (rounds f true limit 0 none none rest).any fun r => goal r.rest
  have hreaches : ∀ goal, ∀ r ∈ f before text, (more goal r).isSome = reaches goal r.rest := by
    intro goal r hr
    have hlength := hf.rest_length_lt hvanish hr
    rw [Option.isSome_map, Bool.eq_iff_iff, List.find?_isSome, ← List.any_eq_true,
      any_rounds hf hvanish (by omega)]
  have hround : ∀ goal, cls.Sheds goal → ((f.andThen (rounds f true limit 0 none)) before text).find?
      (fun r => goal r.rest) =
        ((f before text).find? fun r => reaches goal r.rest && stopped cls r.rest).bind (more goal) := by
    intro goal hgoal
    rw [find?_andThen, findSome?_eq_bind, List.find?_congr (hreaches goal),
      htakes (reaches goal) (sheds_rounds hf hvanish hstart limit hgoal)]
  have hsame : ∀ r ∈ f before text, stopped cls r.rest = true → more next r = more last r := by
    intro r hr hstop
    have hlength := hf.rest_length_lt hvanish hr
    exact congrArg (Option.map r.followedBy) (hloop _ _ (by omega) hstop)
  rw [hround next hsheds, hround last hlast]
  have hfirst : ((f before text).find? fun r => reaches next r.rest && stopped cls r.rest) =
      (f before text).find? fun r => reaches last r.rest && stopped cls r.rest := by
    refine List.find?_congr fun r hr => ?_
    cases hstop : stopped cls r.rest with
    | false => simp only [Bool.and_false]
    | true => rw [← hreaches next r hr, ← hreaches last r hr, hsame r hr hstop]
  rw [hfirst]
  refine Option.bind_congr fun r hr => ?_
  have hstop := List.find?_some hr
  rw [Bool.and_eq_true] at hstop
  exact hsame r (List.mem_of_find?_eq_some hr) hstop.2

theorem find?_loop (limit : Nat) (hsheds : cls.Sheds next) :
    ∀ before text, text.length < limit → stopped cls text = true →
      (rounds f true limit 0 none before text).find? (fun r => next r.rest) =
        (rounds f true limit 0 none before text).find? fun r => next r.rest && stopped cls r.rest := by
  induction limit with
  | zero => intro _ _ hlength; omega
  | succ limit ih =>
    intro before text hlength hstop
    rw [rounds_zero_succ hf hvanish, List.find?_append, List.find?_append,
      find?_round_andThen hf hvanish htakes hstart hsheds ih before (by omega)]
    simp [Reading.empty, hstop]

end Loops

end Matcher

theorem takesAll_oneOrMore {body : Regex} {language : Language} {cls : CharClass}
    (hbody : body.readings.Spans language) (hvanish : ∀ parts, ¬ language [] parts)
    (htakes : body.readings.TakesAll cls)
    (hstart : ∀ before c text, cls.holds c = true → body.readings before (c :: text) = []) :
    (repeated 1 none true body).readings.TakesAll cls := by
  intro next hsheds before text
  have hrounds : (repeated 1 none true body).readings before text =
      (body.readings.andThen (body.readings.rounds true (1 + text.length) 0 none)) before text := by
    change body.readings.rounds true (1 + 0 + text.length + 1) 1 none before text = _
    rw [Nat.add_zero, Matcher.rounds_succ fun _ hr => hbody.taken_ne_nil hvanish hr]
    exact List.append_nil _
  rw [hrounds]
  exact Matcher.find?_round_andThen hbody hvanish htakes hstart hsheds
    (Matcher.find?_loop hbody hvanish htakes hstart _ hsheds) before (by omega)

variable {ι : Type} {number : ι → Nat} {p q : Pattern ι} {f g : Matcher} {cls : CharClass}
  {next : List Char → Bool}

theorem takesAll_inOrder (cls : CharClass) (ps : List (Pattern ι)) :
    ((Pattern.inOrder (ps ++ [.run cls 0])).regex number).readings.TakesAll cls := by
  induction ps with
  | nil => exact Matcher.takesAll_run cls 0
  | cons p ps ih =>
    have hsplit : Pattern.inOrder (p :: (ps ++ [.run cls 0])) =
        .seq p (Pattern.inOrder (ps ++ [.run cls 0])) := by
      cases ps <;> rfl
    rw [List.cons_append, hsplit, Pattern.readings_regex_seq]
    exact ih.andThen

theorem readings_run_of_stopped {text : List Char} (h : stopped cls text = true) :
    (Pattern.run cls 0 : Pattern ι).readings text = [.empty text] := by
  have htake : text.takeWhile cls.holds = [] := by
    cases text with
    | nil => rfl
    | cons c text => simpa [stopped] using h
  simp [Pattern.readings, htake, Reading.front, Reading.empty]

/-- Behind what takes all of a class, a greedy run of the class finds nothing more. -/
theorem Matcher.TakesAll.agrees_andThen_run (htakes : f.TakesAll cls)
    (hf : f.Agrees number p (q.reaches next)) (hg : g.Agrees number (.seq (.run cls 0) q) next)
    (hq : ∀ text, q.reaches next text = true → stopped cls text = true) :
    (f.andThen g).Agrees number (.seq p q) next := by
  intro before text
  have hstopped : ∀ rest, stopped cls rest = true →
      (Pattern.seq (.run cls 0) q).readings rest = q.readings rest := by
    intro rest hstop
    rw [Pattern.readings, readings_run_of_stopped hstop, List.flatMap_singleton]
    exact List.map_id _
  have hsheds : cls.Sheds ((Pattern.seq (.run cls 0) q).reaches next) := by
    intro c rest hc
    rw [Pattern.reaches_seq, Pattern.reaches_seq, Pattern.reaches_run_zero, Pattern.reaches_run_zero,
      List.dropWhile_cons_of_pos hc]
    exact id
  have hreaches : (fun r : Reading Nat =>
      (Pattern.seq (.run cls 0) q).reaches next r.rest && stopped cls r.rest) = fun r => q.reaches next r.rest := by
    funext r
    cases hstop : stopped cls r.rest with
    | true => rw [Bool.and_true, Pattern.reaches, hstopped _ hstop, Pattern.reaches]
    | false =>
      rw [Bool.and_false]
      exact (Bool.eq_false_iff.mpr fun h => by simp [hq _ h] at hstop).symm
  rw [find?_andThen_of_agrees f hg, find?_readings_seq p q, htakes _ hsheds, hreaches, hf]
  cases hfind : (p.readings text).find? fun r => q.reaches next r.rest with
  | none => rfl
  | some r =>
    have hnext : q.reaches next r.rest = true := by simpa using List.find?_some hfind
    have hrest : (r.relabel number).rest = r.rest := rfl
    simp only [Option.map_some, Option.bind_some, Option.map_map, hrest, hstopped _ (hq _ hnext)]
    congr 1
    funext s
    exact (Reading.relabel_followedBy number r s).symm

end SchemaShell.Regex
