import Mathlib.Data.List.Basic
import SchemaShell.Proofs.Pattern.Language
import SchemaShell.Proofs.Text.Classes

/-!
# Patterns with only one way

A pattern is settled before some leads if the next character of the text always tells which way to
go: whether a run ends, which side of a choice to take, whether another round starts. A settled
pattern finds every derivation of its language, so giving nothing back loses nothing.
-/

namespace SchemaShell

/-! ## Leads -/

/-- What a text may begin with. -/
inductive Lead where
  | any
  | mark (c : Char)
  | one (cls : CharClass)
  /-- The first letter of a keyword. -/
  | initial (c : Char)

def CharClass.apart : CharClass → CharClass → Bool
  | blank, letter | blank, digit | blank, alphanumeric => true
  | letter, blank | letter, digit | digit, blank | digit, letter | alphanumeric, blank => true
  | _, _ => false

theorem CharClass.not_holds_of_apart {cls other : CharClass} (h : cls.apart other = true) {c : Char}
    (hc : cls.holds c = true) : ¬ other.holds c = true := by
  intro ho
  cases cls <;> cases other <;> simp only [apart, Bool.false_eq_true] at h <;>
    simp only [holds, Text.isBlank_iff, Text.isAlphanum_iff, Text.isAlpha_iff, Text.isDigit_iff]
      at hc ho <;>
    omega

theorem CharClass.holds_toUpper {cls : CharClass} {c : Char} (h : cls.holds c = true) :
    cls.holds c.toUpper = true := by
  rcases Text.toUpper_cases c with hu | ⟨ha, hu⟩
  · rwa [hu]
  · have hn := Text.isAlphanum_of_isAlpha ha
    have hun := Text.isAlphanum_of_isAlpha hu
    cases cls with
    | blank => simp [holds, Text.isBlank_of_isAlphanum hn] at h
    | letter => exact hu
    | digit =>
      have hletter : letter.holds c = true := ha
      exact absurd h (not_holds_of_apart rfl hletter)
    | alphanumeric => exact hun
    | alphanumericOrBlank => simp [holds, hun]

def CharClass.solid : CharClass → Bool
  | .blank | .alphanumericOrBlank => false
  | .letter | .digit | .alphanumeric => true

theorem CharClass.isAlphanum_of_solid {cls : CharClass} (h : cls.solid = true) {c : Char}
    (hc : cls.holds c = true) : c.isAlphanum = true := by
  cases cls with
  | blank | alphanumericOrBlank => cases h
  | letter => exact Text.isAlphanum_of_isAlpha hc
  | digit => exact Text.isAlphanum_of_isDigit hc
  | alphanumeric => exact hc

namespace Lead

def Holds : Lead → Char → Prop
  | any, _ => True
  | mark c, d => d = c
  | one cls, d => cls.holds d = true
  | initial c, d => d.toUpper = c

def apart : Lead → Lead → Bool
  | mark c, mark d | initial c, initial d => c ≠ d
  | mark c, one cls | one cls, mark c | one cls, initial c | initial c, one cls => !cls.holds c
  | mark c, initial d | initial d, mark c => c.toUpper ≠ d
  | one cls, one other => cls.apart other
  | any, _ | _, any => false

theorem not_holds_of_apart {l m : Lead} (h : l.apart m = true) {c : Char} (hl : l.Holds c) :
    ¬ m.Holds c := by
  intro hm
  cases l <;> cases m <;>
    simp only [apart, Holds, Bool.not_eq_true', decide_eq_true_eq, Bool.false_eq_true] at h hl hm
  case mark.mark | mark.initial | initial.mark | initial.initial => subst_vars; simp at h
  case mark.one | one.mark => subst_vars; simp_all
  case one.one => exact CharClass.not_holds_of_apart h hl hm
  case one.initial => subst_vars; simp [CharClass.holds_toUpper hl] at h
  case initial.one => subst_vars; simp [CharClass.holds_toUpper hm] at h

/-- The text is empty or begins with one of the leads. -/
def Before (leads : List Lead) (text : List Char) : Prop :=
  ∀ c ∈ text.head?, ∃ l ∈ leads, l.Holds c

@[simp] theorem before_nil (leads : List Lead) : Before leads [] := by
  simp [Before]

@[simp] theorem before_cons {leads : List Lead} {c : Char} {text : List Char} :
    Before leads (c :: text) ↔ ∃ l ∈ leads, l.Holds c := by
  simp [Before]

theorem before_any (text : List Char) : Before [any] text :=
  fun _ _ => ⟨any, by simp, trivial⟩

theorem Before.append {leads more : List Lead} {text : List Char} (h : Before leads text) :
    Before (leads ++ more) text := by
  intro c hc
  obtain ⟨l, hl, hlc⟩ := h c hc
  exact ⟨l, List.mem_append_left _ hl, hlc⟩

end Lead

namespace Pattern

open Lead

variable {ι : Type}

def mayVanish : Pattern ι → Bool
  | nothing | shortRun .. | many _ => true
  | mark _ | one _ => false
  | keyword word => word.toList = []
  | run _ least => least = 0
  | seq first second => first.mayVanish && second.mayVanish
  | either preferred other => preferred.mayVanish || other.mayVanish
  | part _ body => body.mayVanish

def leads : Pattern ι → List Lead
  | nothing => []
  | mark c => [.mark c]
  | one cls | run cls _ | shortRun cls _ => [.one cls]
  | keyword word => word.toList.head?.toList.map .initial
  | seq first second => first.leads ++ if first.mayVanish then second.leads else []
  | either preferred other => preferred.leads ++ other.leads
  | many round => round.leads
  | part _ body => body.leads

/-- What may come next when the pattern is followed by one of `next`. -/
def ahead (p : Pattern ι) (next : List Lead) : List Lead :=
  p.leads ++ if p.mayVanish then next else []

theorem mayVanish_of_derives {p : Pattern ι} {parts : List (ι × List Char)}
    (h : p.Derives [] parts) : p.mayVanish = true := by
  induction p generalizing parts with
  | nothing | shortRun cls short | many round => rfl
  | mark c => simp [Derives] at h
  | one cls => simp [Derives] at h
  | keyword word => simpa [mayVanish] using h.1.symm
  | run cls least => simpa [mayVanish] using h.2.1
  | seq first second ih₁ ih₂ =>
    obtain ⟨front, back, fronts, backs, hf, hb, htext, -⟩ := h
    obtain ⟨rfl, rfl⟩ := List.nil_eq_append_iff.mp htext
    simp [mayVanish, ih₁ hf, ih₂ hb]
  | either preferred other ih₁ ih₂ =>
    rcases h with h | h
    · simp [mayVanish, ih₁ h]
    · simp [mayVanish, ih₂ h]
  | part name body ih =>
    obtain ⟨inner, hbody, -⟩ := h
    exact ih hbody

theorem before_ahead {p : Pattern ι} {text rest : List Char} {parts : List (ι × List Char)}
    {next : List Lead} (h : p.Derives text parts) (hleads : Before p.leads text)
    (hrest : Before next rest) : Before (p.ahead next) (text ++ rest) := by
  intro c hc
  by_cases hne : text = []
  · subst hne
    obtain ⟨l, hl, hlc⟩ := hrest c hc
    exact ⟨l, by simp [ahead, mayVanish_of_derives h, hl], hlc⟩
  · rw [List.head?_append_of_ne_nil _ hne] at hc
    exact hleads.append c hc

theorem before_leads {p : Pattern ι} {text : List Char} {parts : List (ι × List Char)}
    (h : p.Derives text parts) : Before p.leads text := by
  induction p generalizing text parts with
  | nothing => simp [h.1]
  | mark d => simp [h.1, leads, Holds]
  | one cls =>
    obtain ⟨⟨d, hd, rfl⟩, -⟩ := h
    simpa [leads, Holds] using hd
  | keyword word =>
    intro c hc
    obtain ⟨rest, rfl⟩ := List.head?_eq_some_iff.mp hc
    exact ⟨.initial c.toUpper, by simp [leads, ← h.1], rfl⟩
  | run cls least | shortRun cls short =>
    exact fun c hc => ⟨.one cls, by simp [leads], h.1 c (List.mem_of_head? hc)⟩
  | seq first second ih₁ ih₂ =>
    obtain ⟨front, back, fronts, backs, hf, hb, rfl, -⟩ := h
    exact before_ahead hf (ih₁ hf) (ih₂ hb)
  | either preferred other ih₁ ih₂ =>
    rcases h with h | h
    · exact (ih₁ h).append
    · intro c hc
      obtain ⟨l, hl, hlc⟩ := ih₂ h c hc
      exact ⟨l, List.mem_append_right _ hl, hlc⟩
  | many round ih =>
    cases h with
    | none => simp
    | more first taken _ =>
      intro c hc
      rw [List.head?_append_of_ne_nil _ taken] at hc
      exact ih first c hc
  | part name body ih =>
    obtain ⟨inner, hbody, -⟩ := h
    exact ih hbody

theorem before_ahead_of_derives {p : Pattern ι} {text rest : List Char}
    {parts : List (ι × List Char)} {next : List Lead} (h : p.Derives text parts)
    (hrest : Before next rest) : Before (p.ahead next) (text ++ rest) :=
  before_ahead h (before_leads h) hrest

/-! ## Settled patterns -/

/-- No character is led by one of the first and by one of the second. -/
def allApart (first second : List Lead) : Bool :=
  first.all fun l => second.all l.apart

theorem not_before_of_allApart {first second : List Lead} (h : allApart first second = true)
    {c : Char} {text : List Char} (hf : Before first (c :: text)) : ¬ Before second (c :: text) := by
  intro hs
  obtain ⟨l, hl, hlc⟩ := before_cons.mp hf
  obtain ⟨m, hm, hmc⟩ := before_cons.mp hs
  exact not_holds_of_apart (List.all_eq_true.mp (List.all_eq_true.mp h l hl) m hm) hlc hmc

theorem readings_eq_nil {p : Pattern ι} {next : List Lead} {text : List Char}
    (hp : p.mayVanish = false) (happart : allApart p.leads next = true) (htext : Before next text) :
    p.readings text = [] := by
  rw [List.eq_nil_iff_forall_not_mem]
  intro r hr
  have hd := derives_of_mem_readings p text r hr
  have hsplit := taken_append_rest p text r hr
  cases ht : r.taken with
  | nil => simp [mayVanish_of_derives (ht ▸ hd)] at hp
  | cons c more =>
    have hleads := before_leads hd
    rw [ht] at hleads
    rw [← hsplit, ht] at htext
    exact not_before_of_allApart happart hleads (by simpa using htext)

/-- Each step is settled by the next character, when one of `next` or the end follows. -/
def settled : Pattern ι → List Lead → Bool
  | nothing, _ | mark _, _ | one _, _ | keyword _, _ => true
  | run cls _, next => allApart [.one cls] next
  | shortRun .., _ => false
  | seq first second, next => first.settled (second.ahead next) && second.settled next
  | either preferred other, next =>
    preferred.settled next && other.settled next && !preferred.mayVanish &&
      allApart preferred.leads (other.ahead next)
  | many round, next =>
    round.settled ((many round).ahead next) && !round.mayVanish && allApart round.leads next
  | part _ body, next => body.settled next

theorem takeWhile_append_of_head {p : Char → Bool} {text rest : List Char}
    (htext : ∀ c ∈ text, p c = true) (hrest : ∀ c ∈ rest.head?, p c = false) :
    (text ++ rest).takeWhile p = text := by
  rw [List.takeWhile_append_of_pos htext]
  cases rest with
  | nil => simp
  | cons c rest => simp [hrest c rfl]

theorem read?_seq_eq (first second : Pattern ι) (text : List Char) :
    (seq first second).read? text =
      (first.readings text).findSome? fun r => (second.read? r.rest).map r.followedBy := by
  simp only [read?, readings, List.head?_flatMap, List.head?_map]

theorem read?_seq {first second : Pattern ι} {text : List Char} {r s : Reading ι}
    (hr : first.read? text = some r) (hs : second.read? r.rest = some s) :
    (seq first second).read? text = some (r.followedBy s) := by
  obtain ⟨others, hr⟩ := List.head?_eq_some_iff.mp hr
  simp [read?_seq_eq, hr, hs]

theorem read?_run {cls : CharClass} {least : Nat} {text rest : List Char}
    (hall : ∀ c ∈ text, cls.holds c = true) (hleast : least ≤ text.length)
    (hstop : ∀ c ∈ rest.head?, cls.holds c = false) :
    (run cls least : Pattern ι).read? (text ++ rest) = some ⟨text, [], rest⟩ := by
  simp [read?, readings, takeWhile_append_of_head hall hstop, Reading.front, hleast]

theorem read?_part {name : ι} {body : Pattern ι} {text : List Char} {r : Reading ι}
    (hr : body.read? text = some r) : (part name body).read? text = some (r.named name) := by
  obtain ⟨others, hr⟩ := List.head?_eq_some_iff.mp hr
  simp [read?, readings, hr]

theorem rounds_eq {round : Pattern ι} {next : List Lead} {rest : List Char}
    (hround : ∀ text parts rest, round.Derives text parts → Before ((many round).ahead next) rest →
      round.read? (text ++ rest) = some ⟨text, parts, rest⟩)
    (hstop : round.readings rest = []) (hrest : Before next rest) {text : List Char}
    {parts : List (ι × List Char)} (h : Rounds round.Derives text parts) (limit : Nat)
    (hlimit : text.length ≤ limit) :
    rounds round.readings limit (text ++ rest) = ⟨text, parts, rest⟩ := by
  induction h generalizing limit with
  | none =>
    cases limit with
    | zero => rfl
    | succ limit => simp [rounds, hstop, Reading.empty]
  | @more text more parts others first taken laterRounds ih =>
    have hpos := List.length_pos_iff.mpr taken
    rw [List.length_append] at hlimit
    obtain ⟨limit, rfl⟩ : ∃ n, limit = n + 1 := ⟨limit - 1, by omega⟩
    have hahead : Before ((many round).ahead next) (more ++ rest) :=
      before_ahead_of_derives (p := many round) laterRounds hrest
    obtain ⟨later, hread⟩ := List.head?_eq_some_iff.mp (hround text parts _ first hahead)
    rw [List.append_assoc, rounds, hread]
    simp only [taken, if_false, ih limit (by omega)]
    rfl

/-- A settled pattern reads each text of its language, when what follows begins as it should. -/
theorem read?_of_settled {p : Pattern ι} {next : List Lead} (hp : p.settled next = true)
    {text rest : List Char} {parts : List (ι × List Char)} (h : p.Derives text parts)
    (hrest : Before next rest) : p.read? (text ++ rest) = some ⟨text, parts, rest⟩ := by
  induction p generalizing next text parts rest with
  | nothing =>
    obtain ⟨rfl, rfl⟩ := h
    rfl
  | mark c =>
    obtain ⟨rfl, rfl⟩ := h
    simp [read?, readings, Reading.front]
  | one cls =>
    obtain ⟨⟨c, hc, rfl⟩, rfl⟩ := h
    simp [read?, readings, Reading.front, hc]
  | keyword word =>
    obtain ⟨hword, rfl⟩ := h
    have hlen : word.toList.length = text.length := by rw [← hword, List.length_map]
    simp [read?, readings, Reading.front, hlen, hword]
  | run cls least =>
    obtain ⟨hall, hleast, rfl⟩ := h
    have hstop : ∀ c ∈ rest.head?, cls.holds c = false := by
      intro c hc
      obtain ⟨others, rfl⟩ := List.head?_eq_some_iff.mp hc
      refine Bool.eq_false_iff.mpr fun hcls => not_before_of_allApart hp ?_ hrest
      exact before_cons.mpr ⟨.one cls, by simp, hcls⟩
    exact read?_run hall hleast hstop
  | shortRun cls short => simp [settled] at hp
  | seq first second ih₁ ih₂ =>
    simp only [settled, Bool.and_eq_true] at hp
    obtain ⟨front, back, fronts, backs, hf, hb, rfl, rfl⟩ := h
    rw [List.append_assoc]
    exact read?_seq (ih₁ hp.1 hf (before_ahead_of_derives hb hrest)) (ih₂ hp.2 hb hrest)
  | either preferred other ih₁ ih₂ =>
    simp only [settled, Bool.and_eq_true, Bool.not_eq_true'] at hp
    obtain ⟨⟨⟨hs₁, hs₂⟩, hvanish⟩, hapart⟩ := hp
    rcases h with h | h
    · obtain ⟨later, hread⟩ := List.head?_eq_some_iff.mp (ih₁ hs₁ h hrest)
      simp [read?, readings, hread]
    · have hnone : preferred.readings (text ++ rest) = [] :=
        readings_eq_nil hvanish hapart (before_ahead_of_derives h hrest)
      simpa [read?, readings, hnone] using ih₂ hs₂ h hrest
  | many round ih =>
    simp only [settled, Bool.and_eq_true, Bool.not_eq_true'] at hp
    obtain ⟨⟨hs, hvanish⟩, hapart⟩ := hp
    have hstop : round.readings rest = [] := readings_eq_nil hvanish hapart hrest
    simp only [read?, readings, List.head?_cons, Option.some.injEq]
    exact rounds_eq (fun _ _ _ hd hr => ih hs hd hr) hstop hrest h _ (by simp)
  | part name body ih =>
    obtain ⟨inner, hbody, rfl⟩ := h
    exact read?_part (ih hp hbody hrest)

end Pattern

end SchemaShell
