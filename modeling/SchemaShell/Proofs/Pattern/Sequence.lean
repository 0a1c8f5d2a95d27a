import SchemaShell.Proofs.Pattern.Words

/-!
# Patterns in sequence

A sequence may be cut anywhere: its front is read first, and what stands behind it goes on from there.
A front that ends in a whole word is read where the word ends.
-/

namespace SchemaShell

namespace Reading

variable {ι : Type}

theorem followedBy_assoc (r s t : Reading ι) :
    (r.followedBy s).followedBy t = r.followedBy (s.followedBy t) := by
  simp [followedBy]

theorem followedBy_empty (r : Reading ι) : r.followedBy (empty r.rest) = r := by
  simp [followedBy, empty]

end Reading

namespace Pattern

variable {ι : Type} {p first second : Pattern ι} {ps qs : List (Pattern ι)} {text rest : List Char}
  {parts : List (ι × List Char)} {r s : Reading ι}

/-! ## Regrouping -/

theorem readings_seq_nothing (p : Pattern ι) (text : List Char) :
    (seq p nothing).readings text = p.readings text := by
  simp [readings, Reading.followedBy_empty]

theorem readings_seq_assoc (p q r : Pattern ι) (text : List Char) :
    (seq (seq p q) r).readings text = (seq p (seq q r)).readings text := by
  simp only [readings, List.flatMap_assoc, List.flatMap_map, List.map_flatMap, List.map_map]
  refine List.flatMap_congr fun front _ => List.flatMap_congr fun next _ => List.map_congr_left ?_
  intro last _
  exact Reading.followedBy_assoc front next last

theorem readings_seq_congr (h : ∀ text, first.readings text = second.readings text) (text : List Char) :
    (seq p first).readings text = (seq p second).readings text := by
  simp only [readings, h]

theorem readings_inOrder_cons (p : Pattern ι) (ps : List (Pattern ι)) (text : List Char) :
    (inOrder (p :: ps)).readings text = (seq p (inOrder ps)).readings text := by
  cases ps with
  | nil => exact (readings_seq_nothing p text).symm
  | cons q ps => rfl

theorem readings_inOrder_append (ps qs : List (Pattern ι)) (text : List Char) :
    (inOrder (ps ++ qs)).readings text = (seq (inOrder ps) (inOrder qs)).readings text := by
  induction ps generalizing text with
  | nil =>
    rw [inOrder, readings, readings, List.flatMap_singleton]
    exact (List.map_id _).symm
  | cons p ps ih =>
    calc (inOrder (p :: (ps ++ qs))).readings text
        = (seq p (inOrder (ps ++ qs))).readings text := readings_inOrder_cons p _ text
      _ = (seq p (seq (inOrder ps) (inOrder qs))).readings text := readings_seq_congr ih text
      _ = (seq (seq p (inOrder ps)) (inOrder qs)).readings text := (readings_seq_assoc _ _ _ text).symm
      _ = (seq (inOrder (p :: ps)) (inOrder qs)).readings text := by
        simp only [readings, readings_inOrder_cons p ps text]

theorem read?_inOrder_append (hr : (inOrder ps).read? text = some r)
    (hs : (inOrder qs).read? r.rest = some s) :
    (inOrder (ps ++ qs)).read? text = some (r.followedBy s) := by
  have hwhole := read?_seq hr hs
  rwa [read?, ← readings_inOrder_append] at hwhole

theorem derives_seq_assoc {p q r : Pattern ι} :
    (seq (seq p q) r).Derives text parts ↔ (seq p (seq q r)).Derives text parts := by
  constructor
  · rintro ⟨_, last, _, lasts, ⟨front, next, fronts, nexts, hfront, hnext, rfl, rfl⟩, hlast, rfl, rfl⟩
    rw [List.append_assoc, List.append_assoc]
    exact hfront.seq (hnext.seq hlast)
  · rintro ⟨front, _, fronts, _, hfront, ⟨next, last, nexts, lasts, hnext, hlast, rfl, rfl⟩, rfl, rfl⟩
    rw [← List.append_assoc, ← List.append_assoc]
    exact (hfront.seq hnext).seq hlast

theorem derives_seq_congr {p q r : Pattern ι} (h : ∀ text parts, p.Derives text parts ↔ q.Derives text parts) :
    (seq r p).Derives text parts ↔ (seq r q).Derives text parts := by
  simp only [Derives, h]

theorem derives_inOrder_cons :
    (inOrder (p :: ps)).Derives text parts ↔ (seq p (inOrder ps)).Derives text parts := by
  cases ps with
  | nil => simp [inOrder, Derives]
  | cons q ps => exact Iff.rfl

theorem derives_inOrder_append :
    (inOrder (ps ++ qs)).Derives text parts ↔ (seq (inOrder ps) (inOrder qs)).Derives text parts := by
  induction ps generalizing text parts with
  | nil => simp [inOrder, Derives]
  | cons p ps ih =>
    calc (inOrder (p :: (ps ++ qs))).Derives text parts
        ↔ (seq p (inOrder (ps ++ qs))).Derives text parts := derives_inOrder_cons
      _ ↔ (seq p (seq (inOrder ps) (inOrder qs))).Derives text parts := derives_seq_congr fun _ _ => ih
      _ ↔ (seq (seq p (inOrder ps)) (inOrder qs)).Derives text parts := derives_seq_assoc.symm
      _ ↔ (seq (inOrder (p :: ps)) (inOrder qs)).Derives text parts := by
        simp only [Derives, derives_inOrder_cons]

/-! ## Choices -/

theorem derives_optional_seq :
    (seq (optional first) second).Derives text parts ↔
      (seq first second).Derives text parts ∨ second.Derives text parts := by
  constructor
  · rintro ⟨front, back, fronts, backs, hfront | ⟨rfl, rfl⟩, hback, rfl, rfl⟩
    · exact Or.inl (hfront.seq hback)
    · exact Or.inr hback
  · rintro (⟨front, back, fronts, backs, hfront, hback, rfl, rfl⟩ | h)
    · exact ⟨front, back, fronts, backs, Or.inl hfront, hback, rfl, rfl⟩
    · exact ⟨[], text, [], parts, Or.inr ⟨rfl, rfl⟩, h, rfl, rfl⟩

theorem read?_either_left {other : Pattern ι} (h : p.read? text = some r) :
    (either p other).read? text = some r := by
  obtain ⟨others, hr⟩ := List.head?_eq_some_iff.mp h
  simp [read?, readings, hr]

theorem read?_either_right {other : Pattern ι} (h : p.readings text = []) :
    (either p other).read? text = other.read? text := by
  simp [read?, readings, h]

theorem read?_eq_none_iff : p.read? text = none ↔ p.readings text = [] := by
  rw [read?, List.head?_eq_none_iff]

/-! ## Nothing to read -/

theorem readings_seq_eq_nil (h : ∀ r ∈ first.readings text, second.readings r.rest = []) :
    (seq first second).readings text = [] := by
  simp only [readings, List.flatMap_eq_nil_iff, List.map_eq_nil_iff]
  exact h

theorem readings_mark_seq_eq_nil {c : Char} (h : p.readings text = []) :
    (seq (mark c) p).readings (c :: text) = [] := by
  refine readings_seq_eq_nil fun r hr => ?_
  obtain rfl : r = .front 1 (c :: text) := by simpa [readings] using hr
  exact h

theorem readings_run_seq_eq_nil {cls : CharClass} {least : Nat} (hall : ∀ c ∈ text, cls.holds c = true)
    (hstop : ∀ c ∈ rest.head?, cls.holds c = false) (h : p.readings rest = []) :
    (seq (run cls least) p).readings (text ++ rest) = [] := by
  refine readings_seq_eq_nil fun r hr => ?_
  have hrun : (text ++ rest).takeWhile cls.holds = text := takeWhile_append_of_head hall hstop
  simp only [readings, hrun] at hr
  split at hr
  · obtain rfl := List.mem_singleton.mp hr
    simpa [Reading.front] using h
  · cases hr

/-! ## Runs of a class -/

theorem exists_run (holds : Char → Bool) (text : List Char) :
    ∃ front rest, text = front ++ rest ∧ (∀ c ∈ front, holds c = true) ∧
      ∀ c ∈ rest.head?, holds c = false := by
  refine ⟨text.takeWhile holds, text.dropWhile holds, List.takeWhile_append_dropWhile.symm, ?_, ?_⟩
  · intro c hc
    exact List.mem_takeWhile_imp hc
  · intro c hc
    have hhead := List.head?_dropWhile_not holds text
    rw [Option.mem_def] at hc
    rwa [hc] at hhead

theorem append_inj_of_runs {holds : Char → Bool} {text other rest last : List Char}
    (heq : text ++ rest = other ++ last) (htext : ∀ c ∈ text, holds c = true)
    (hrest : ∀ c ∈ rest.head?, holds c = false) (hother : ∀ c ∈ other, holds c = true)
    (hlast : ∀ c ∈ last.head?, holds c = false) : text = other ∧ rest = last := by
  have hsame : text = other := by
    rw [← takeWhile_append_of_head htext hrest, heq, takeWhile_append_of_head hother hlast]
  subst hsame
  exact ⟨rfl, List.append_cancel_left heq⟩

/-! ## Patterns that end in a word -/

/-- Only the word at the end depends on what follows the pattern. -/
def EndsInWord (p : Pattern ι) : Prop :=
  ∀ next, p.settled next = allApart [.one .alphanumeric] next

theorem read?_of_endsInWord (hp : p.EndsInWord) (h : p.Derives text parts) (hrest : StartsApart rest) :
    p.read? (text ++ rest) = some ⟨text, parts, rest⟩ := by
  -- What follows begins with its own first character, and that one ends the word.
  cases rest with
  | nil => exact read?_of_settled (hp []) h (Lead.before_nil [])
  | cons c rest =>
    have hc : c.isAlphanum = false := hrest c rfl
    have hsettled : p.settled [.mark c] = true := by
      rw [hp]
      simp [allApart, Lead.apart, CharClass.holds, hc]
    exact read?_of_settled hsettled h (Lead.before_cons.mpr ⟨.mark c, by simp, rfl⟩)

end Pattern

end SchemaShell
