import Mathlib.Data.List.TakeWhile
import SchemaShell.Pattern.Basic

/-!
# The language of a pattern

`Derives` says which texts a pattern may take and which parts it names in them, in every way in
which its runs, choices and repetitions can go. Each reading of a pattern is such a derivation.
The converse needs a condition on the pattern and is shown in `Settled.lean`. The characters of a
text are of the classes, marks and keywords that its pattern is made of.
-/

namespace SchemaShell.Pattern

variable {ι : Type}

/-! ## Derivations -/

/-- Any number of rounds, each of which takes something. -/
inductive Rounds (round : List Char → List (ι × List Char) → Prop) :
    List Char → List (ι × List Char) → Prop where
  | none : Rounds round [] []
  | more {text more : List Char} {parts others : List (ι × List Char)} (first : round text parts)
      (taken : text ≠ []) (rest : Rounds round more others) :
      Rounds round (text ++ more) (parts ++ others)

def Derives : Pattern ι → List Char → List (ι × List Char) → Prop
  | nothing, text, parts => text = [] ∧ parts = []
  | mark c, text, parts => text = [c] ∧ parts = []
  | one cls, text, parts => (∃ c, cls.holds c = true ∧ text = [c]) ∧ parts = []
  | keyword word, text, parts => text.map Char.toUpper = word.toList ∧ parts = []
  | run cls least, text, parts => (∀ c ∈ text, cls.holds c = true) ∧ least ≤ text.length ∧ parts = []
  | shortRun cls _, text, parts => (∀ c ∈ text, cls.holds c = true) ∧ parts = []
  | seq first second, text, parts =>
    ∃ front back fronts backs, first.Derives front fronts ∧ second.Derives back backs ∧
      text = front ++ back ∧ parts = fronts ++ backs
  | either preferred other, text, parts => preferred.Derives text parts ∨ other.Derives text parts
  | many round, text, parts => Rounds round.Derives text parts
  | part name body, text, parts => ∃ inner, body.Derives text inner ∧ parts = (name, text) :: inner

theorem Derives.seq {first second : Pattern ι} {front back : List Char}
    {fronts backs : List (ι × List Char)} (hf : first.Derives front fronts)
    (hb : second.Derives back backs) : (seq first second).Derives (front ++ back) (fronts ++ backs) :=
  ⟨front, back, fronts, backs, hf, hb, rfl, rfl⟩

/-! ## Every reading is a derivation -/

theorem front_takeWhile (p : Char → Bool) (text : List Char) :
    (.front (text.takeWhile p).length text : Reading ι) = ⟨text.takeWhile p, [], text.dropWhile p⟩ := by
  have hsplit : text.takeWhile p ++ text.dropWhile p = text := List.takeWhile_append_dropWhile
  have htake : text.take (text.takeWhile p).length = text.takeWhile p :=
    (List.prefix_iff_eq_take.mp (List.takeWhile_prefix p)).symm
  have hdrop : text.drop (text.takeWhile p).length = text.dropWhile p := by
    have := List.take_append_drop (text.takeWhile p).length text
    rw [htake] at this
    exact List.append_cancel_left (this.trans hsplit.symm)
  rw [Reading.front, htake, hdrop]

theorem rounds_derives {round : List Char → List (ι × List Char) → Prop}
    {step : List Char → List (Reading ι)} (hstep : ∀ text, ∀ r ∈ step text, round r.taken r.parts)
    (limit : Nat) (text : List Char) :
    Rounds round (rounds step limit text).taken (rounds step limit text).parts := by
  induction limit generalizing text with
  | zero => exact .none
  | succ limit ih =>
    rw [rounds]
    split
    · exact .none
    · next r _ hr =>
      split
      · exact .none
      · next hne => exact .more (hstep text r (by simp [hr])) hne (ih r.rest)

theorem derives_of_mem_readings (p : Pattern ι) (text : List Char) :
    ∀ r ∈ p.readings text, p.Derives r.taken r.parts := by
  induction p generalizing text with
  | nothing => simp [readings, Derives, Reading.empty]
  | mark c =>
    simp only [readings]
    split
    · next h =>
      obtain ⟨rest, rfl⟩ := List.head?_eq_some_iff.mp h
      simp [Derives, Reading.front]
    · simp
  | one cls =>
    simp only [readings]
    split
    · next h =>
      obtain ⟨c, hc, hcls⟩ := List.any_eq_true.mp h
      cases text with
      | nil => simp at hc
      | cons d rest =>
        obtain rfl : c = d := by simpa using hc
        simp [Derives, Reading.front, hcls]
    · simp
  | keyword word =>
    simp only [readings]
    split
    · next h => simp [Derives, Reading.front, h]
    · simp
  | run cls least =>
    simp only [readings]
    split
    · next h =>
      simp only [front_takeWhile, List.mem_singleton, forall_eq, Derives, and_true]
      exact ⟨fun c hc => List.mem_takeWhile_imp hc, h⟩
    · simp
  | shortRun cls short =>
    simp only [readings]
    split
    · have hfront : text.takeWhile cls.holds <+: text := List.takeWhile_prefix cls.holds
      have htake := List.prefix_iff_eq_take.mp hfront
      simp only [List.mem_singleton, forall_eq, Derives, Reading.front, and_true]
      intro c hc
      have hc' := List.take_subset_take_left text (Nat.sub_le _ short) hc
      rw [← htake] at hc'
      exact List.mem_takeWhile_imp hc'
    · simp
  | seq first second ih₁ ih₂ =>
    simp only [readings, List.mem_flatMap, List.mem_map]
    rintro _ ⟨r, hr, next, hn, rfl⟩
    exact (ih₁ text r hr).seq (ih₂ r.rest next hn)
  | either preferred other ih₁ ih₂ =>
    intro r hr
    rcases List.mem_append.mp hr with hr | hr
    · exact Or.inl (ih₁ text r hr)
    · exact Or.inr (ih₂ text r hr)
  | many round ih =>
    simp only [readings, List.mem_singleton]
    rintro _ rfl
    exact rounds_derives (fun t => ih t) _ _
  | part name body ih =>
    simp only [readings, List.mem_map]
    rintro _ ⟨r, hr, rfl⟩
    exact ⟨r.parts, ih text r hr, rfl⟩

theorem derives_of_read? {p : Pattern ι} {text : List Char} {r : Reading ι}
    (h : p.read? text = some r) : p.Derives r.taken r.parts ∧ r.taken ++ r.rest = text := by
  have hr : r ∈ p.readings text := List.mem_of_head? h
  exact ⟨derives_of_mem_readings p text r hr, taken_append_rest p text r hr⟩

/-! ## What a text is made of -/

/-- The pattern has only classes, marks and keywords that are allowed. -/
def madeOf (classes : CharClass → Bool) (marks : Char → Bool) (keywords : String → Bool) : Pattern ι → Bool
  | nothing => true
  | mark c => marks c
  | one cls | run cls _ | shortRun cls _ => classes cls
  | keyword word => keywords word
  | seq first second => first.madeOf classes marks keywords && second.madeOf classes marks keywords
  | either preferred other => preferred.madeOf classes marks keywords && other.madeOf classes marks keywords
  | many round => round.madeOf classes marks keywords
  | part _ body => body.madeOf classes marks keywords

theorem forall_of_madeOf {classes : CharClass → Bool} {marks : Char → Bool} {keywords : String → Bool}
    {allowed : Char → Prop} (hclasses : ∀ cls, classes cls = true → ∀ c, cls.holds c = true → allowed c)
    (hmarks : ∀ c, marks c = true → allowed c)
    (hkeywords : ∀ word, keywords word = true → ∀ c : Char, c.toUpper ∈ word.toList → allowed c)
    {p : Pattern ι} {text : List Char} {parts : List (ι × List Char)} (h : p.Derives text parts)
    (hp : p.madeOf classes marks keywords = true) : ∀ c ∈ text, allowed c := by
  induction p generalizing text parts with
  | nothing => simp [h.1]
  | mark c =>
    rw [h.1]
    simpa using hmarks c hp
  | one cls =>
    obtain ⟨⟨c, hc, rfl⟩, -⟩ := h
    simpa using hclasses cls hp c hc
  | keyword word =>
    intro c hc
    apply hkeywords word hp
    rw [← h.1]
    exact List.mem_map_of_mem hc
  | run cls least | shortRun cls short =>
    exact fun c hc => hclasses cls hp c (h.1 c hc)
  | seq first second ih₁ ih₂ =>
    simp only [madeOf, Bool.and_eq_true] at hp
    obtain ⟨front, back, fronts, backs, hf, hb, rfl, -⟩ := h
    intro c hc
    rcases List.mem_append.mp hc with hc | hc
    · exact ih₁ hf hp.1 c hc
    · exact ih₂ hb hp.2 c hc
  | either preferred other ih₁ ih₂ =>
    simp only [madeOf, Bool.and_eq_true] at hp
    rcases h with h | h
    · exact ih₁ h hp.1
    · exact ih₂ h hp.2
  | many round ih =>
    induction h with
    | none => simp
    | more first taken rest ihrest =>
      intro c hc
      rcases List.mem_append.mp hc with hc | hc
      · exact ih first hp c hc
      · exact ihrest c hc
  | part name body ih =>
    obtain ⟨inner, hbody, -⟩ := h
    exact ih hbody hp

end SchemaShell.Pattern
