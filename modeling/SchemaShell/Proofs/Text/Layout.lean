import Mathlib.Data.List.TakeWhile
import SchemaShell.Proofs.Text.Classes

/-!
# Texts that differ in their blanks only

`Respaced` relates two texts when one becomes the other by exchanging runs of blanks for other runs
of blanks. No run comes or goes.
-/

namespace SchemaShell.Text

inductive Respaced : List Char → List Char → Prop where
  | nil : Respaced [] []
  | keep (c : Char) {text other : List Char} (rest : Respaced text other) :
    Respaced (c :: text) (c :: other)
  | swap {gap space text other : List Char} (gap_ne_nil : gap ≠ []) (space_ne_nil : space ≠ [])
      (gap_blank : ∀ c ∈ gap, isBlank c = true) (space_blank : ∀ c ∈ space, isBlank c = true)
      (rest : Respaced text other) : Respaced (gap ++ text) (space ++ other)

namespace Respaced

variable {text other front more : List Char}

theorem refl (text : List Char) : Respaced text text := by
  induction text with
  | nil => exact nil
  | cons c text ih => exact keep c ih

theorem symm (h : Respaced text other) : Respaced other text := by
  induction h with
  | nil => exact nil
  | keep c rest ih => exact keep c ih
  | swap hgap hspace hg hs rest ih => exact swap hspace hgap hs hg ih

theorem append (h : Respaced text other) (hm : Respaced front more) :
    Respaced (text ++ front) (other ++ more) := by
  induction h with
  | nil => exact hm
  | keep c rest ih => exact keep c ih
  | swap hgap hspace hg hs rest ih =>
    rw [List.append_assoc, List.append_assoc]
    exact swap hgap hspace hg hs ih

theorem eq_nil_iff (h : Respaced text other) : text = [] ↔ other = [] := by
  cases h with
  | nil => simp
  | keep c rest => simp
  | swap hgap hspace hg hs rest => simp [hgap, hspace]

theorem reverse (h : Respaced text other) : Respaced text.reverse other.reverse := by
  induction h with
  | nil => exact nil
  | keep c rest ih =>
    rw [List.reverse_cons, List.reverse_cons]
    exact ih.append (refl [c])
  | @swap gap space text other hgap hspace hg hs rest ih =>
    rw [List.reverse_append, List.reverse_append]
    have hswap : Respaced gap.reverse space.reverse := by
      have hblanks := swap (by simpa using hgap) (by simpa using hspace)
        (fun c hc => hg c (List.mem_reverse.mp hc)) (fun c hc => hs c (List.mem_reverse.mp hc)) nil
      simpa using hblanks
    exact ih.append hswap

/-! ## Text without blanks -/

theorem exists_of_cons {c : Char} (hc : isBlank c = false) (h : Respaced (c :: text) other) :
    ∃ back, other = c :: back ∧ Respaced text back := by
  generalize htext : c :: text = whole at h
  cases h with
  | nil => cases htext
  | keep d rest =>
    cases htext
    exact ⟨_, rfl, rest⟩
  | swap hgap hspace hg hs rest =>
    obtain ⟨d, gap, rfl⟩ := List.exists_cons_of_ne_nil hgap
    cases htext
    rw [hg c (by simp)] at hc
    cases hc

theorem exists_of_append (hfront : ∀ c ∈ front, isBlank c = false)
    (h : Respaced (front ++ text) other) : ∃ back, other = front ++ back ∧ Respaced text back := by
  induction front generalizing other with
  | nil => exact ⟨other, rfl, h⟩
  | cons c front ih =>
    obtain ⟨back, rfl, hback⟩ := exists_of_cons (hfront c (by simp)) h
    obtain ⟨last, rfl, hlast⟩ := ih (fun d hd => hfront d (by simp [hd])) hback
    exact ⟨last, rfl, hlast⟩

theorem eq_of_solid (htext : ∀ c ∈ text, isBlank c = false) (h : Respaced text other) :
    other = text := by
  have hwhole : Respaced (text ++ []) other := by rwa [List.append_nil]
  obtain ⟨back, rfl, hback⟩ := exists_of_append htext hwhole
  rw [hback.eq_nil_iff.mp rfl, List.append_nil]

theorem head?_eq (htext : ∀ c ∈ text.head?, isBlank c = false) (h : Respaced text other) :
    other.head? = text.head? := by
  cases text with
  | nil => rw [h.eq_nil_iff.mp rfl]
  | cons c text =>
    obtain ⟨back, rfl, -⟩ := exists_of_cons (htext c rfl) h
    rfl

theorem getLast?_eq (htext : ∀ c ∈ text.getLast?, isBlank c = false) (h : Respaced text other) :
    other.getLast? = text.getLast? := by
  rw [← List.head?_reverse, ← List.head?_reverse]
  exact h.reverse.head?_eq (by simpa using htext)

/-! ## Runs of a class -/

/-- Either all blanks are in the class or none is. -/
def Uniform (p : Char → Bool) : Prop :=
  ∃ b, ∀ c, isBlank c = true → p c = b

theorem span {p : Char → Bool} (hp : Uniform p) (h : Respaced text other) :
    Respaced (text.takeWhile p) (other.takeWhile p) ∧ Respaced (text.dropWhile p) (other.dropWhile p) := by
  obtain ⟨b, hb⟩ := hp
  induction h with
  | nil => exact ⟨nil, nil⟩
  | @keep c text other rest ih =>
    by_cases hc : p c = true
    · simpa [hc] using ⟨keep c ih.1, ih.2⟩
    · simpa [hc] using ⟨nil, keep c rest⟩
  | @swap gap space text other hgap hspace hg hs rest ih =>
    cases b with
    | true =>
      have hall : ∀ c ∈ gap, p c = true := fun c hc => hb c (hg c hc)
      have hall' : ∀ c ∈ space, p c = true := fun c hc => hb c (hs c hc)
      rw [List.takeWhile_append_of_pos hall, List.takeWhile_append_of_pos hall',
        List.dropWhile_append_of_pos hall, List.dropWhile_append_of_pos hall']
      exact ⟨swap hgap hspace hg hs ih.1, ih.2⟩
    | false =>
      obtain ⟨c, gap, rfl⟩ := List.exists_cons_of_ne_nil hgap
      obtain ⟨d, space, rfl⟩ := List.exists_cons_of_ne_nil hspace
      have hc : p c = false := hb c (hg c (by simp))
      have hd : p d = false := hb d (hs d (by simp))
      simp only [List.cons_append, List.takeWhile_cons, List.dropWhile_cons, hc, hd]
      exact ⟨nil, swap hgap hspace hg hs rest⟩

theorem all_eq {p : Char → Bool} (hp : Uniform p) (h : Respaced text other) :
    text.all p = other.all p := by
  rw [Bool.eq_iff_iff, List.all_eq_true, List.all_eq_true, ← List.dropWhile_eq_nil_iff,
    ← List.dropWhile_eq_nil_iff]
  exact (h.span hp).2.eq_nil_iff

end Respaced

end SchemaShell.Text
