import SchemaShell.Proofs.Pattern.Alike
import SchemaShell.Proofs.Pattern.Settled
import SchemaShell.Proofs.Text.Layout

/-!
# Patterns that do not count blanks

A pattern that reads blanks in whole runs, and asks for one of them at most, has the same readings of
two texts that differ in their blanks only.
-/

namespace SchemaShell

open Text

theorem congruent_respaced : Congruent Respaced where
  nil := .nil
  append := .append
  eq_nil_iff := Respaced.eq_nil_iff

theorem CharClass.isBlank_of_solid {cls : CharClass} (h : cls.solid = true) {c : Char}
    (hc : cls.holds c = true) : isBlank c = false :=
  isBlank_of_isAlphanum (isAlphanum_of_solid h hc)

theorem CharClass.uniform (cls : CharClass) : Respaced.Uniform cls.holds := by
  by_cases hsolid : cls.solid = true
  · refine ⟨false, fun c hc => Bool.eq_false_iff.mpr fun hcls => ?_⟩
    rw [isBlank_of_solid hsolid hcls] at hc
    cases hc
  · refine ⟨true, fun c hc => ?_⟩
    cases cls with
    | blank => exact hc
    | alphanumericOrBlank => simp [holds, hc]
    | letter | digit | alphanumeric => exact absurd rfl hsolid

namespace Pattern

open Reading

variable {ι : Type} {text other : List Char}

/-! ## Single steps -/

theorem take_eq_of_solid {n : Nat} (h : Respaced text other)
    (hfront : ∀ c ∈ text.take n, isBlank c = false) (hn : (text.take n).length = n) :
    other.take n = text.take n ∧ Respaced (text.drop n) (other.drop n) := by
  rw [← List.take_append_drop n text] at h
  obtain ⟨back, rfl, hback⟩ := h.exists_of_append hfront
  rw [List.take_left' hn, List.drop_left' hn]
  exact ⟨rfl, hback⟩

theorem alike_front {n : Nat} (h : Respaced text other)
    (hfront : ∀ c ∈ text.take n, isBlank c = false) (hn : (text.take n).length = n) :
    Alike Respaced (.front n text : Reading ι) (.front n other) := by
  obtain ⟨htake, hdrop⟩ := take_eq_of_solid h hfront hn
  refine ⟨?_, .nil, hdrop⟩
  rw [Reading.front, Reading.front, htake]
  exact .refl _

theorem front_alike {n : Nat} (test : List Char → Prop) [DecidablePred test]
    (htest : ∀ front, front.length ≤ n → test front → front.length = n ∧ ∀ c ∈ front, isBlank c = false)
    (h : Respaced text other) :
    List.Forall₂ (Alike Respaced) (if test (text.take n) then [(.front n text : Reading ι)] else [])
      (if test (other.take n) then [.front n other] else []) := by
  by_cases htext : test (text.take n)
  · obtain ⟨hlength, hsolid⟩ := htest _ (List.length_take_le n text) htext
    rw [(take_eq_of_solid h hsolid hlength).1, if_pos htext, if_pos htext]
    exact .cons (alike_front h hsolid hlength) .nil
  -- A front that passes in the other text passes in this one too.
  · have hother : ¬ test (other.take n) := by
      intro hother
      obtain ⟨hlength, hsolid⟩ := htest _ (List.length_take_le n other) hother
      rw [(take_eq_of_solid h.symm hsolid hlength).1] at htext
      exact htext hother
    rw [if_neg htext, if_neg hother]
    exact .nil

theorem respects_mark {c : Char} (hc : isBlank c = false) : Respects Respaced (mark c : Pattern ι) := by
  intro text other h
  have hhead : ∀ t : List Char, t.head? = some c ↔ t.take 1 = [c] := by
    intro t
    cases t <;> simp
  simp only [readings, hhead]
  refine front_alike (· = [c]) ?_ h
  rintro _ - rfl
  simpa using hc

theorem respects_one {cls : CharClass} (hcls : cls.solid = true) :
    Respects Respaced (one cls : Pattern ι) := by
  intro text other h
  rw [readings, readings]
  refine front_alike (fun front => front.any cls.holds = true) ?_ h
  intro front hlength htest
  obtain ⟨c, hc, hholds⟩ := List.any_eq_true.mp htest
  have hone : front.length = 1 := Nat.le_antisymm hlength (List.length_pos_of_mem hc)
  obtain ⟨d, rfl⟩ := List.length_eq_one_iff.mp hone
  obtain rfl := List.mem_singleton.mp hc
  simpa using CharClass.isBlank_of_solid hcls hholds

theorem respects_keyword {word : String} (hword : word.toList.all (fun c => !isBlank c) = true) :
    Respects Respaced (keyword word : Pattern ι) := by
  intro text other h
  rw [readings, readings]
  refine front_alike (fun front => front.map Char.toUpper = word.toList) ?_ h
  intro front _ htest
  refine ⟨by rw [← htest, List.length_map], fun c hc => Bool.eq_false_iff.mpr fun hblank => ?_⟩
  have hmem : c.toUpper ∈ word.toList := htest ▸ List.mem_map_of_mem hc
  have hsolid := List.all_eq_true.mp hword _ hmem
  simp [isBlank_toUpper hblank] at hsolid

/-! ## Runs -/

theorem respects_run (cls : CharClass) {least : Nat} (hleast : least ≤ 1) :
    Respects Respaced (run cls least : Pattern ι) := by
  intro text other h
  obtain ⟨htake, hdrop⟩ := h.span cls.uniform
  have hnone : (text.takeWhile cls.holds).length = 0 ↔ (other.takeWhile cls.holds).length = 0 := by
    rw [List.length_eq_zero_iff, List.length_eq_zero_iff]
    exact htake.eq_nil_iff
  have hsize : least ≤ (text.takeWhile cls.holds).length ↔ least ≤ (other.takeWhile cls.holds).length := by
    omega
  simp only [readings, front_takeWhile, hsize]
  split
  · exact .cons ⟨htake, .nil, hdrop⟩ .nil
  · exact .nil

theorem respects_shortRun {cls : CharClass} (hcls : cls.solid = true) (short : Nat) :
    Respects Respaced (shortRun cls short : Pattern ι) := by
  intro text other h
  have hsolid : ∀ c ∈ text.takeWhile cls.holds, isBlank c = false := fun c hc =>
    CharClass.isBlank_of_solid hcls (List.mem_takeWhile_imp hc)
  have hrun : other.takeWhile cls.holds = text.takeWhile cls.holds :=
    (h.span cls.uniform).1.eq_of_solid hsolid
  simp only [readings, hrun]
  split
  · have hprefix := List.takeWhile_prefix (l := text) cls.holds
    have hlength := hprefix.length_le
    refine .cons (alike_front h (fun c hc => ?_) (by rw [List.length_take]; omega)) .nil
    have hmem := List.take_subset_take_left text (Nat.sub_le _ short) hc
    rw [← List.prefix_iff_eq_take.mp hprefix] at hmem
    exact hsolid c hmem
  · exact .nil

/-! ## Whole patterns -/

/-- The pattern does not tell one run of blanks from another. -/
def layoutFree : Pattern ι → Bool
  | nothing => true
  | mark c => !isBlank c
  | one cls | shortRun cls _ => cls.solid
  | keyword word => word.toList.all fun c => !isBlank c
  | run _ least => least ≤ 1
  | seq first second => first.layoutFree && second.layoutFree
  | either preferred other => preferred.layoutFree && other.layoutFree
  | many round => round.layoutFree
  | part _ body => body.layoutFree

theorem respects_of_layoutFree {p : Pattern ι} (hp : p.layoutFree = true) : Respects Respaced p := by
  induction p with
  | nothing => exact respects_nothing congruent_respaced
  | mark c => exact respects_mark (by simpa [layoutFree] using hp)
  | one cls => exact respects_one hp
  | keyword word => exact respects_keyword hp
  | run cls least => exact respects_run cls (by simpa [layoutFree] using hp)
  | shortRun cls short => exact respects_shortRun hp short
  | seq first second ih₁ ih₂ =>
    simp only [layoutFree, Bool.and_eq_true] at hp
    exact (ih₁ hp.1).seq congruent_respaced (ih₂ hp.2)
  | either preferred other ih₁ ih₂ =>
    simp only [layoutFree, Bool.and_eq_true] at hp
    exact (ih₁ hp.1).either (ih₂ hp.2)
  | many round ih => exact (ih hp).many congruent_respaced
  | part name body ih => exact (ih hp).part name

end Pattern

end SchemaShell
