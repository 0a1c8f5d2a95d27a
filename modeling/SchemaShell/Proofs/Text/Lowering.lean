import Mathlib.Data.List.Forall2
import SchemaShell.Proofs.Text.Case

/-!
# Lower case, whatever the tables hold

A table of lower cases has more to say about characters outside ASCII than `lower` does. What `LowerCase`
asks of it is all that a comparison with a word of small letters can show: such a word is the lower case
of a text just when the two differ in the case of ASCII letters only.
-/

namespace SchemaShell.Text

/-- What the lower case of a character may be. It is never empty, and outside ASCII there is a letter of
ASCII in it for two characters only. -/
inductive Lowers : Char → List Char → Prop where
  | ascii {c : Char} (h : c.toNat < 128) : Lowers c [c.toLower]
  | kelvin : Lowers '\u212A' ['k']
  | dotted : Lowers '\u0130' ['i', '\u0307']
  | other {c : Char} {piece : List Char} (h : 128 ≤ c.toNat) (notKelvin : c ≠ '\u212A')
      (notDotted : c ≠ '\u0130') (some : piece ≠ []) (letterless : ∀ d ∈ piece, d.isAlpha = false) :
    Lowers c piece

/-- Piece by piece, so that a character may have another lower case at the end of a word. -/
def LowerCase (text lowered : List Char) : Prop :=
  ∃ pieces, List.Forall₂ Lowers text pieces ∧ pieces.flatten = lowered

variable {text lowered word : List Char}

/-! ## One character -/

theorem toLower_of_not_isAlpha {c : Char} (h : c.isAlpha = false) : c.toLower = c := by
  rw [← Bool.not_eq_true, isAlpha_iff] at h
  rw [← Char.toNat_inj, toNat_toLower, if_neg]
  omega

theorem toUpper_toLower (c : Char) : c.toLower.toUpper = c.toUpper := by
  rw [← Char.toNat_inj, toNat_toUpper, toNat_toUpper, toNat_toLower]
  by_cases hcapital : 65 ≤ c.toNat ∧ c.toNat ≤ 90
  · rw [if_pos hcapital, if_pos (by omega), if_neg (by omega)]
    omega
  · rw [if_neg hcapital]

theorem lowers_lowerChar (c : Char) : Lowers c (lowerChar c) := by
  unfold lowerChar
  split
  · next hkelvin => exact hkelvin ▸ .kelvin
  split
  · next hdotted => exact hdotted ▸ .dotted
  by_cases hascii : c.toNat < 128
  · exact .ascii hascii
  · have hc : c.isAlpha = false := by
      rw [← Bool.not_eq_true, isAlpha_iff]
      omega
    refine .other (by omega) ‹_› ‹_› (by simp) ?_
    simpa [toLower_of_not_isAlpha hc] using hc

theorem lowerCase_lower (text : List Char) : LowerCase text (lower text) := by
  refine ⟨text.map lowerChar, ?_, List.flatMap_def.symm⟩
  rw [List.forall₂_map_right_iff, List.forall₂_same]
  exact fun c _ => lowers_lowerChar c

/-- A letter other than k comes from the same letter, in either case, and from nothing else. -/
theorem Lowers.eq_of_letters {c : Char} {piece : List Char} (h : Lowers c piece)
    (hpiece : ∀ d ∈ piece, d.isAlpha = true ∧ d ≠ 'k') : piece = [c.toLower] := by
  cases h with
  | ascii => rfl
  | kelvin => exact absurd rfl (hpiece 'k' (by simp)).2
  | dotted => exact absurd (hpiece '\u0307' (by simp)).1 (by decide)
  | other _ _ _ some letterless =>
    obtain ⟨d, hd⟩ := List.exists_mem_of_ne_nil _ some
    exact absurd (hpiece d hd).1 (by simp [letterless d hd])

theorem Lowers.of_isAlpha {c : Char} {piece : List Char} (h : Lowers c piece) (hc : c.isAlpha = true) :
    piece = [c.toLower] := by
  rw [isAlpha_iff] at hc
  cases h with
  | ascii => rfl
  | kelvin => exact absurd hc (by decide)
  | dotted => exact absurd hc (by decide)
  | other h => omega

/-! ## Words of small letters -/

/-- A word of small letters, of which none is a k. -/
def Small (word : List Char) : Prop :=
  ∀ d ∈ word, (d.isAlpha = true ∧ d ≠ 'k') ∧ d.toLower = d

instance (word : List Char) : Decidable (Small word) :=
  List.decidableBAll (fun d : Char => (d.isAlpha = true ∧ d ≠ 'k') ∧ d.toLower = d) word

theorem recased_flatten {pieces : List (List Char)} (h : List.Forall₂ Lowers text pieces)
    (hword : Small pieces.flatten) : Recased text pieces.flatten := by
  induction h with
  | nil => exact .nil
  | @cons c piece text pieces hc _ ih =>
    rw [List.flatten_cons] at *
    obtain rfl := hc.eq_of_letters fun d hd => (hword d (List.mem_append_left _ hd)).1
    have hrest := ih fun d hd => hword d (List.mem_append_right _ hd)
    exact .cons (toUpper_toLower c).symm hrest

theorem flatten_of_recased {pieces : List (List Char)} (h : List.Forall₂ Lowers text pieces)
    (hword : Small word) (hr : Recased text word) : pieces.flatten = word := by
  induction h generalizing word with
  | nil => exact (hr.eq_nil_iff.mp rfl).symm
  | @cons c piece text pieces hc _ ih =>
    obtain ⟨d, back, rfl, hd, hback⟩ := hr.exists_of_cons
    obtain ⟨⟨hletter, -⟩, hsmall⟩ := hword d List.mem_cons_self
    have hlower : c.toLower = d := by rw [← toLower_toUpper, hd, toLower_toUpper, hsmall]
    have halpha : c.isAlpha = true := by rwa [caseFree_isAlpha.eq hd]
    rw [List.flatten_cons, hc.of_isAlpha halpha, hlower,
      ih (fun e he => hword e (List.mem_cons_of_mem _ he)) hback, List.singleton_append]

theorem LowerCase.eq_iff (h : LowerCase text lowered) (hword : Small word) :
    lowered = word ↔ Recased text word := by
  obtain ⟨pieces, hpieces, rfl⟩ := h
  constructor
  · rintro rfl
    exact recased_flatten hpieces hword
  · exact flatten_of_recased hpieces hword

theorem Recased.toNat_lt_of_small (h : Recased text word) (hword : Small word) {c : Char} (hc : c ∈ text) :
    c.toNat < 128 := by
  have hletters : word.all Char.isAlpha = true := List.all_eq_true.mpr fun d hd => (hword d hd).1.1
  rw [← h.all_eq caseFree_isAlpha] at hletters
  have halpha := (isAlpha_iff c).mp (List.all_eq_true.mp hletters c hc)
  omega

end SchemaShell.Text
