import SchemaShell.Proofs.Text.Classes
import SchemaShell.Text.Numeral

/-!
# The words of a text

A character of white space ends a word and belongs to none. A text that is written word by word, with
a blank between two of them, has just these words.
-/

namespace SchemaShell.Text

variable {text : List Char}

theorem words_append_cons {c : Char} (hc : isWhiteSpace c = true) (front back : List Char) :
    words (front ++ c :: back) = words front ++ words back := by
  simp only [words, List.splitOnP_append_cons front back hc, List.filter_append]

/-- A text that is one word. -/
def Solid (text : List Char) : Prop :=
  text ≠ [] ∧ ∀ c ∈ text, isWhiteSpace c = false

instance : Decidable (Solid text) :=
  @instDecidableAnd _ _ inferInstance (List.decidableBAll _ text)

theorem solid_of_alphanum (hne : text ≠ []) (h : ∀ c ∈ text, c.isAlphanum = true) : Solid text :=
  ⟨hne, fun c hc => isWhiteSpace_of_isAlphanum (h c hc)⟩

theorem solid_decimal (n : Nat) : Solid (decimal n).toList := by
  rw [decimal, String.toList_ofList]
  refine solid_of_alphanum Nat.toDigits_ne_nil fun c hc => ?_
  exact isAlphanum_of_isDigit (Nat.isDigit_of_mem_toDigits (by omega) (by omega) hc)

theorem words_of_solid (h : Solid text) : words text = [text] := by
  rw [words, List.splitOnP_eq_singleton h.2, List.filter_cons_of_pos (by simpa using h.1), List.filter_nil]

theorem words_eq_nil_iff : words text = [] ↔ text.all isWhiteSpace = true := by
  induction text with
  | nil => simp [words]
  | cons c text ih =>
    by_cases hc : isWhiteSpace c = true
    · have hstep : words (c :: text) = words [] ++ words text := words_append_cons hc [] text
      have hnone : words [] = [] := rfl
      rw [hstep, hnone, List.nil_append, ih, List.all_cons, hc, Bool.true_and]
    · -- The word that begins here is not empty, whatever it goes on with.
      obtain ⟨first, others, hsplit⟩ :=
        List.exists_cons_of_ne_nil (List.splitOnP_ne_nil isWhiteSpace text)
      simp [words, List.splitOnP_cons_eq_if_modifyHead, hc, hsplit]

theorem words_intercalate {pieces : List (List Char)} (h : ∀ piece ∈ pieces, Solid piece) :
    words ([' '].intercalate pieces) = pieces := by
  induction pieces with
  | nil => rfl
  | cons piece pieces ih =>
    have hpiece := words_of_solid (h piece (by simp))
    cases pieces with
    | nil => simpa using hpiece
    | cons next pieces =>
      have hrest := ih fun p hp => h p (by simp [hp])
      rw [List.intercalate_cons_cons, List.append_assoc, List.singleton_append, words_append_cons rfl,
        hpiece, hrest, List.singleton_append]

end SchemaShell.Text
