import SchemaShell.Proofs.Command.Alike
import SchemaShell.Proofs.Command.Line
import SchemaShell.Proofs.Pattern.Layout

/-!
# The layout of a line

A line may be laid out in other ways: with other blanks between its words, with white space around it,
and with a semicolon at its end. It is read alike in all of them.
-/

namespace SchemaShell.Command

open Text

variable {line other : String}

/-- The other line has other blanks inside, white space around it, and perhaps a semicolon behind it. -/
inductive Relaid (line other : String) : Prop where
  | spaced {before text after : List Char} (respaced : Respaced (trim line.toList) text)
    (hbefore : White before) (hafter : White after) (spelled : other.toList = before ++ (text ++ after))
  | closed {before text after last : List Char} (respaced : Respaced (trim line.toList) text)
    (hbefore : White before) (hafter : White after) (hlast : White last)
    (spelled : other.toList = before ++ (text ++ (after ++ ';' :: last)))

theorem Relaid.normalize (hopen : (trim line.toList).getLast? ≠ some ';') (h : Relaid line other) :
    Respaced (normalize line) (normalize other) := by
  have hfirst := isWhiteSpace_head_trim line.toList
  have hlast : ∀ c ∈ (trim line.toList).getLast?, isWhiteSpace c = false := isWhiteSpace_last_trimEnd _
  have hline : Command.normalize line = trim line.toList := by
    rw [Command.normalize, withoutSemicolon, if_neg hopen, trimEnd_of_last hlast]
  have hends : ∀ text, Respaced (trim line.toList) text →
      text.head? = (trim line.toList).head? ∧ text.getLast? = (trim line.toList).getLast? := fun text h =>
    ⟨h.head?_eq fun c hc => isBlank_of_not_isWhiteSpace (hfirst c hc),
      h.getLast?_eq fun c hc => isBlank_of_not_isWhiteSpace (hlast c hc)⟩
  rw [hline]
  cases h with
  | spaced respaced hbefore hafter spelled =>
    obtain ⟨hhead, hend⟩ := hends _ respaced
    rw [← hhead] at hfirst
    rw [← hend] at hlast hopen
    rwa [normalize_spaced spelled hbefore hafter hfirst hlast hopen]
  | closed respaced hbefore hafter hbehind spelled =>
    obtain ⟨hhead, hend⟩ := hends _ respaced
    rw [← hhead] at hfirst
    rw [← hend] at hlast
    rwa [normalize_closed spelled hbefore hafter hbehind hfirst hlast]

/-! ## Reading -/

theorem layoutFree_opening (kind : Kind) : kind.opening.layoutFree = true := by
  cases kind <;> decide

theorem layoutFree_shape (kind : Kind) : kind.shape.layoutFree = true := by
  cases kind <;> decide

end SchemaShell.Command
