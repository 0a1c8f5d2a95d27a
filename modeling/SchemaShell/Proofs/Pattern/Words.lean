import SchemaShell.Proofs.Pattern.Placed
import SchemaShell.Proofs.Pattern.Settled

/-!
# Parts that are whole words

Three checks of a pattern, for the parts whose names are chosen by `isWord`: by the first, such a part
never starts directly behind a letter or digit; by the second, it never stops directly before one; by
the third, it has nothing but letters and digits.
-/

namespace SchemaShell.Pattern

variable {ι : Type} {isWord : ι → Bool} {p : Pattern ι} {before text : List Char}

def EndsApart (text : List Char) : Prop :=
  ∀ c ∈ text.getLast?, c.isAlphanum = false

def StartsApart (text : List Char) : Prop :=
  ∀ c ∈ text.head?, c.isAlphanum = false

theorem EndsApart.append_of_ne_nil (hne : text ≠ []) (h : EndsApart text) :
    EndsApart (before ++ text) := by
  unfold EndsApart
  rwa [List.getLast?_append, List.getLast?_eq_some_getLast hne, Option.some_or,
    ← List.getLast?_eq_some_getLast hne]

/-! ## In front of a part -/

/-- The text up to the end of the pattern ends in no letter or digit. With `apart` the text before the
pattern does not either, without it nothing is known of that text. -/
def leavesApart : Pattern ι → Bool → Bool
  | nothing, apart => apart
  | mark c, _ => !c.isAlphanum
  | one cls, _ => cls = .blank
  | run cls least, apart => cls = .blank && (apart || 0 < least)
  | keyword _, _ | shortRun .., _ | many _, _ => false
  | seq first second, apart => second.leavesApart (first.leavesApart apart)
  | either preferred other, apart => preferred.leavesApart apart && other.leavesApart apart
  | part _ body, apart => body.leavesApart apart

theorem endsApart_of_derives {parts : List (ι × List Char)} {apart : Bool}
    (h : p.Derives text parts) (hp : p.leavesApart apart = true)
    (hbefore : apart = true → EndsApart before) : EndsApart (before ++ text) := by
  induction p generalizing before text parts apart with
  | nothing =>
    obtain ⟨rfl, -⟩ := h
    rw [List.append_nil]
    exact hbefore hp
  | mark c =>
    obtain ⟨rfl, -⟩ := h
    refine EndsApart.append_of_ne_nil (by simp) ?_
    simpa [EndsApart, leavesApart] using hp
  | one cls =>
    obtain ⟨⟨c, hc, rfl⟩, -⟩ := h
    obtain rfl : cls = .blank := by simpa [leavesApart] using hp
    refine EndsApart.append_of_ne_nil (by simp) ?_
    simpa [EndsApart] using Text.not_isAlphanum_of_isBlank hc
  | run cls least =>
    obtain ⟨hall, hleast, -⟩ := h
    simp only [leavesApart, Bool.and_eq_true, Bool.or_eq_true, decide_eq_true_eq] at hp
    obtain ⟨rfl, hp⟩ := hp
    by_cases hne : text = []
    · subst hne
      rw [List.append_nil]
      refine hbefore (hp.resolve_right fun hpos => ?_)
      simp only [List.length_nil] at hleast
      omega
    · exact EndsApart.append_of_ne_nil hne fun c hc =>
        Text.not_isAlphanum_of_isBlank (hall c (List.mem_of_getLast? hc))
  | keyword word | shortRun cls short | many round => simp [leavesApart] at hp
  | seq first second ih₁ ih₂ =>
    obtain ⟨front, back, fronts, backs, hf, hb, rfl, -⟩ := h
    rw [← List.append_assoc]
    exact ih₂ hb hp fun hfirst => ih₁ hf hfirst hbefore
  | either preferred other ih₁ ih₂ =>
    simp only [leavesApart, Bool.and_eq_true] at hp
    rcases h with h | h
    · exact ih₁ h hp.1 hbefore
    · exact ih₂ h hp.2 hbefore
  | part name body ih =>
    obtain ⟨inner, hbody, -⟩ := h
    exact ih hbody hp hbefore

def wordsStartApart (isWord : ι → Bool) : Pattern ι → Bool → Bool
  | seq first second, apart =>
    first.wordsStartApart isWord apart && second.wordsStartApart isWord (first.leavesApart apart)
  | either preferred other, apart =>
    preferred.wordsStartApart isWord apart && other.wordsStartApart isWord apart
  -- A round may stand right behind the one before it.
  | many round, _ => round.wordsStartApart isWord false
  | part name body, apart => (!isWord name || apart) && body.wordsStartApart isWord apart
  | nothing, _ | mark _, _ | one _, _ | keyword _, _ | run .., _ | shortRun .., _ => true

theorem endsApart_before {r : Reading (Spot ι)} {apart : Bool} (h : r ∈ p.placed before text)
    (hp : p.wordsStartApart isWord apart = true) (hbefore : apart = true → EndsApart before) :
    ∀ s ∈ r.parts, isWord s.1.name = true → EndsApart s.1.before := by
  induction p generalizing before text r apart with
  | nothing | mark c | one cls | keyword word | run cls least | shortRun cls short =>
    simp [parts_eq_nil rfl h]
  | seq first second ih₁ ih₂ =>
    simp only [wordsStartApart, Bool.and_eq_true] at hp
    obtain ⟨r₁, hr₁, r₂, hr₂, rfl⟩ := mem_placed_seq.mp h
    intro s hs
    rcases List.mem_append.mp hs with hs | hs
    · exact ih₁ hr₁ hp.1 hbefore s hs
    · exact ih₂ hr₂ hp.2
        (fun hfirst => endsApart_of_derives (derives_of_mem_placed hr₁) hfirst hbefore) s hs
  | either preferred other ih₁ ih₂ =>
    simp only [wordsStartApart, Bool.and_eq_true] at hp
    rcases List.mem_append.mp h with h | h
    · exact ih₁ h hp.1 hbefore
    · exact ih₂ h hp.2 hbefore
  | many round ih =>
    obtain rfl := List.mem_singleton.mp h
    intro s hs
    obtain ⟨front, back, -, r, hr, hs⟩ :=
      mem_parts_placedRounds (fun _ _ _ => taken_append_rest_of_mem_placed) hs
    exact ih hr hp (by simp) s hs
  | part name body ih =>
    simp only [wordsStartApart, Bool.and_eq_true, Bool.or_eq_true, Bool.not_eq_true'] at hp
    obtain ⟨r, hr, rfl⟩ := List.mem_map.mp h
    intro s hs
    rcases List.mem_cons.mp hs with rfl | hs
    · intro hword
      refine hbefore (hp.1.resolve_left ?_)
      simp [hword]
    · exact ih hr hp.2 hbefore s hs

/-! ## Behind a part -/

def isWholeRun : Pattern ι → Bool
  | run .alphanumeric _ => true
  | _ => false

theorem startsApart_rest {r : Reading (Spot ι)} (h : r ∈ p.placed before text)
    (hp : p.isWholeRun = true) : StartsApart r.rest := by
  unfold isWholeRun at hp
  split at hp
  · simp only [placed, readings, front_takeWhile] at h
    split at h
    · obtain rfl := List.mem_singleton.mp h
      intro c hc
      have hhead := List.head?_dropWhile_not CharClass.alphanumeric.holds text
      rw [Option.mem_def] at hc
      rwa [hc] at hhead
    · cases h
  · cases hp

def wordsAreRuns (isWord : ι → Bool) (p : Pattern ι) : Bool :=
  p.bodies.all fun b => !isWord b.1 || b.2.isWholeRun

theorem startsApart_behind {r : Reading (Spot ι)} (h : r ∈ p.placed before text)
    (hp : p.wordsAreRuns isWord = true) :
    ∀ s ∈ r.parts, isWord s.1.name = true → StartsApart s.1.behind := by
  intro s hs hword
  obtain ⟨body, hbody, ⟨inner, hinner, -, hrest⟩, -⟩ := exists_body_of_mem_parts h hs
  have hrun := List.all_eq_true.mp hp _ hbody
  simp only [hword, Bool.not_true, Bool.false_or] at hrun
  rw [← hrest]
  exact startsApart_rest hinner hrun

/-! ## Inside a part -/

def solid : Pattern ι → Bool
  | nothing => true
  | mark c => c.isAlphanum
  | one cls | run cls _ | shortRun cls _ => cls.solid
  | keyword _ | many _ => false
  | seq first second => first.solid && second.solid
  | either preferred other => preferred.solid && other.solid
  | part _ body => body.solid

theorem madeOf_of_solid (hp : p.solid = true) : p.madeOf CharClass.solid Char.isAlphanum (fun _ => false) = true := by
  induction p with
  | nothing => rfl
  | mark c | one cls | run cls least | shortRun cls short => exact hp
  | keyword word | many round => cases hp
  | seq first second ih₁ ih₂ | either first second ih₁ ih₂ =>
    simp only [solid, Bool.and_eq_true] at hp
    simp only [madeOf, ih₁ hp.1, ih₂ hp.2, Bool.and_self]
  | part name body ih => exact ih hp

theorem isAlphanum_of_solid {parts : List (ι × List Char)} (h : p.Derives text parts)
    (hp : p.solid = true) : ∀ c ∈ text, c.isAlphanum = true := by
  have hclasses : ∀ cls : CharClass, cls.solid = true → ∀ c, cls.holds c = true → c.isAlphanum = true :=
    fun _ hcls _ => CharClass.isAlphanum_of_solid hcls
  exact forall_of_madeOf hclasses (fun _ => id) (by simp) h (madeOf_of_solid hp)

def wordsAreSolid (isWord : ι → Bool) (p : Pattern ι) : Bool :=
  p.bodies.all fun b => !isWord b.1 || b.2.solid

theorem isAlphanum_of_word {r : Reading (Spot ι)} (h : r ∈ p.placed before text)
    (hp : p.wordsAreSolid isWord = true) :
    ∀ s ∈ r.parts, isWord s.1.name = true → ∀ c ∈ s.2, c.isAlphanum = true := by
  intro s hs hword
  obtain ⟨body, hbody, ⟨inner, hinner, htaken, -⟩, -⟩ := exists_body_of_mem_parts h hs
  have hsolid := List.all_eq_true.mp hp _ hbody
  simp only [hword, Bool.not_true, Bool.false_or] at hsolid
  rw [← htaken]
  exact isAlphanum_of_solid (derives_of_mem_placed hinner) hsolid

end SchemaShell.Pattern
