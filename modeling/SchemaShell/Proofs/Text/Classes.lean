import SchemaShell.Text.Ascii
import SchemaShell.Text.WhiteSpace

/-!
# Classes of characters

Which code points are in a class, and which classes have no character in common.
-/

namespace SchemaShell.Text

/-! ## Code points -/

theorem isBlank_iff (c : Char) :
    isBlank c = true ↔ c.toNat = 32 ∨ (9 ≤ c.toNat ∧ c.toNat ≤ 13) := by
  have h32 : c = ' ' ↔ c.toNat = 32 := by rw [← Char.toNat_inj]; rfl
  simp only [isBlank, Bool.or_eq_true, Bool.and_eq_true, beq_iff_eq, decide_eq_true_eq, h32]
  exact Iff.rfl

theorem isAlpha_iff (c : Char) :
    c.isAlpha = true ↔ (65 ≤ c.toNat ∧ c.toNat ≤ 90) ∨ (97 ≤ c.toNat ∧ c.toNat ≤ 122) := by
  change (decide ('A'.val ≤ c.val ∧ c.val ≤ 'Z'.val) ||
    (decide ('a'.val ≤ c.val) && decide (c.val ≤ 'z'.val))) = true ↔ _
  simp only [Bool.or_eq_true, Bool.and_eq_true, decide_eq_true_eq, UInt32.le_iff_toNat_le]
  exact Iff.rfl

theorem isUpper_iff (c : Char) : c.isUpper = true ↔ 65 ≤ c.toNat ∧ c.toNat ≤ 90 := by
  change decide ('A'.val ≤ c.val ∧ c.val ≤ 'Z'.val) = true ↔ _
  rw [decide_eq_true_eq, UInt32.le_iff_toNat_le, UInt32.le_iff_toNat_le]
  exact Iff.rfl

theorem isDigit_iff (c : Char) : c.isDigit = true ↔ 48 ≤ c.toNat ∧ c.toNat ≤ 57 := by
  rw [Char.isDigit_iff_toNat]
  exact Iff.rfl

theorem isAlphanum_iff (c : Char) : c.isAlphanum = true ↔ c.isAlpha = true ∨ c.isDigit = true := by
  simp [Char.isAlphanum]

/-! ## Classes inside others -/

theorem isAlphanum_of_isAlpha {c : Char} (h : c.isAlpha = true) : c.isAlphanum = true :=
  (isAlphanum_iff c).mpr (Or.inl h)

theorem isAlphanum_of_isDigit {c : Char} (h : c.isDigit = true) : c.isAlphanum = true :=
  (isAlphanum_iff c).mpr (Or.inr h)

theorem toUpper_cases (c : Char) :
    c.toUpper = c ∨ (c.isAlpha = true ∧ c.toUpper.isAlpha = true) := by
  by_cases h : 'a'.val ≤ c.val ∧ c.val ≤ 'z'.val
  · right
    have hlow : 97 ≤ c.val.toNat ∧ c.val.toNat ≤ 122 := h
    have hupper : c.toUpper.val = c.val + ('A'.val - 'a'.val) := by
      delta Char.toUpper
      rw [dif_pos h]
    have hcode : c.toUpper.toNat = c.val.toNat - 32 := by
      rw [Char.toNat, hupper, UInt32.toNat_add, show ('A'.val - 'a'.val).toNat = 4294967264 from rfl]
      omega
    refine ⟨(isAlpha_iff c).mpr (Or.inr hlow), (isAlpha_iff _).mpr (Or.inl ?_)⟩
    omega
  · left
    delta Char.toUpper
    rw [dif_neg h]

theorem isWhiteSpace_of_isBlank {c : Char} (h : isBlank c = true) : isWhiteSpace c = true := by
  rw [isBlank_iff] at h
  simp only [isWhiteSpace, whiteSpaceRanges, List.any_cons, Bool.or_eq_true, Bool.and_eq_true,
    decide_eq_true_eq]
  omega

/-! ## Classes apart -/

theorem isBlank_of_not_isWhiteSpace {c : Char} (h : isWhiteSpace c = false) : isBlank c = false := by
  refine Bool.eq_false_iff.mpr fun hblank => ?_
  rw [isWhiteSpace_of_isBlank hblank] at h
  cases h

theorem isBlank_of_isAlphanum {c : Char} (h : c.isAlphanum = true) : isBlank c = false := by
  rw [isAlphanum_iff, isAlpha_iff, isDigit_iff] at h
  rw [← Bool.not_eq_true, isBlank_iff]
  omega

theorem isBlank_toUpper {c : Char} (h : isBlank c = true) : isBlank c.toUpper = true := by
  rcases toUpper_cases c with hc | ⟨hc, -⟩
  · rwa [hc]
  · rw [isBlank_of_isAlphanum (isAlphanum_of_isAlpha hc)] at h
    cases h

theorem not_isAlphanum_of_isBlank {c : Char} (h : isBlank c = true) : c.isAlphanum = false := by
  refine Bool.eq_false_iff.mpr fun hc => ?_
  rw [isBlank_of_isAlphanum hc] at h
  cases h

theorem isWhiteSpace_of_isAlphanum {c : Char} (h : c.isAlphanum = true) : isWhiteSpace c = false := by
  rw [isAlphanum_iff, isAlpha_iff, isDigit_iff] at h
  simp only [isWhiteSpace, whiteSpaceRanges, List.any_cons, List.any_nil, Bool.or_false,
    Bool.or_eq_false_iff, Bool.and_eq_false_iff, decide_eq_false_iff_not]
  omega

end SchemaShell.Text
