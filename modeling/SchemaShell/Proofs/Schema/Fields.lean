import SchemaShell.Proofs.Schema.ColumnBlock

/-!
# Fields as runs

In a text of letters, digits and separators the fields are the runs of letters and digits.
-/

namespace SchemaShell

/-- The longest pieces of a text that have only letters and digits, in order. -/
def Text.alphanumericRuns (text : List Char) : List (List Char) :=
  (text.splitOnP fun c => !c.isAlphanum).filter (· ≠ [])

namespace Schema

open Text

theorem alphanumericRuns_cons_of_apart {c : Char} (hc : c.isAlphanum = false) (text : List Char) :
    alphanumericRuns (c :: text) = alphanumericRuns text := by
  simp [alphanumericRuns, List.splitOnP_cons_eq_if_modifyHead, hc]

theorem alphanumericRuns_cons {c : Char} (hc : c.isAlphanum = true) (text : List Char) :
    alphanumericRuns (c :: text) =
      if continues text then extendFirst c (alphanumericRuns text) else [c] :: alphanumericRuns text := by
  cases text with
  | nil => simp [alphanumericRuns, List.splitOnP_cons_eq_if_modifyHead, hc, continues]
  | cons d text =>
    obtain ⟨first, others, hsplit⟩ :=
      List.exists_cons_of_ne_nil (List.splitOnP_ne_nil (fun c => !c.isAlphanum) text)
    by_cases hd : d.isAlphanum = true <;>
      simp [alphanumericRuns, List.splitOnP_cons_eq_if_modifyHead, hc, hd, hsplit, continues, extendFirst]

theorem fieldsOf_eq_runs {text : List Char}
    (h : ∀ c ∈ text, c.isAlphanum = true ∨ isSeparator c = true) :
    fieldsOf text = alphanumericRuns text := by
  induction text with
  | nil => rfl
  | cons c text ih =>
    have hrest := ih fun d hd => h d (List.mem_cons_of_mem c hd)
    by_cases hc : c.isAlphanum = true
    · rw [fieldsOf, isSeparator_of_isAlphanum hc, alphanumericRuns_cons hc, hrest]
      simp
    · have hapart : c.isAlphanum = false := Bool.eq_false_iff.mpr hc
      have hseparator : isSeparator c = true := (h c List.mem_cons_self).resolve_left hc
      rw [fieldsOf_separator hseparator, alphanumericRuns_cons_of_apart hapart, hrest]

end Schema

end SchemaShell
