import Mathlib.Data.List.DropRight
import SchemaShell.Command.Recognize
import SchemaShell.Proofs.Text.Classes

/-!
# The text of a line that counts

What normalising takes off a line, and which lines it leaves as they are.
-/

namespace SchemaShell

namespace Text

theorem trimEnd_isPrefix (text : List Char) : trimEnd text <+: text :=
  List.rdropWhile_prefix _ text

theorem forall_head?_of_prefix {P : Char → Prop} {front text : List Char} (h : front <+: text)
    (htext : ∀ c ∈ text.head?, P c) : ∀ c ∈ front.head?, P c := by
  obtain ⟨rest, rfl⟩ := h
  intro c hc
  refine htext c ?_
  rw [List.head?_append, hc]
  rfl

theorem isWhiteSpace_head_trimStart (text : List Char) :
    ∀ c ∈ (trimStart text).head?, isWhiteSpace c = false := by
  intro c hc
  have hhead := List.head?_dropWhile_not isWhiteSpace text
  rw [trimStart, Option.mem_def] at hc
  rwa [hc] at hhead

def White (text : List Char) : Prop :=
  ∀ c ∈ text, isWhiteSpace c = true

@[simp] theorem white_nil : White [] := by
  simp [White]

theorem White.append {text more : List Char} (h : White text) (hm : White more) : White (text ++ more) :=
  fun c hc => (List.mem_append.mp hc).elim (h c) (hm c)

theorem trimStart_append {before text : List Char} (hbefore : White before)
    (hfirst : ∀ c ∈ text.head?, isWhiteSpace c = false) : trimStart (before ++ text) = text := by
  rw [trimStart, List.dropWhile_append_of_pos hbefore]
  cases text with
  | nil => rfl
  | cons c text => simp [hfirst c rfl]

theorem trimEnd_eq (text : List Char) : trimEnd text = (trimStart text.reverse).reverse := rfl

theorem trimEnd_append {text after : List Char} (hafter : White after)
    (hlast : ∀ c ∈ text.getLast?, isWhiteSpace c = false) : trimEnd (text ++ after) = text := by
  rw [trimEnd_eq, List.reverse_append, trimStart_append, List.reverse_reverse]
  · exact fun c hc => hafter c (List.mem_reverse.mp hc)
  · simpa using hlast

theorem trimEnd_of_last {text : List Char} (hlast : ∀ c ∈ text.getLast?, isWhiteSpace c = false) :
    trimEnd text = text := by
  have hend := trimEnd_append white_nil hlast
  rwa [List.append_nil] at hend

theorem trimEnd_append_of_last {text : List Char} (hlast : ∀ c ∈ text.getLast?, isWhiteSpace c = false)
    (more : List Char) : trimEnd (text ++ more) = text ++ trimEnd more := by
  have hstart : trimStart text.reverse = text.reverse := by
    rw [← List.reverse_inj, List.reverse_reverse, ← trimEnd_eq, trimEnd_of_last hlast]
  rw [trimStart] at hstart
  simp only [trimEnd_eq, trimStart, List.reverse_append, List.dropWhile_append, hstart]
  split
  · next hnil => simp [List.isEmpty_iff.mp hnil]
  · simp

theorem isWhiteSpace_last_trimEnd (text : List Char) :
    ∀ c ∈ (trimEnd text).getLast?, isWhiteSpace c = false := by
  rw [trimEnd_eq, List.getLast?_reverse]
  exact isWhiteSpace_head_trimStart text.reverse

theorem isWhiteSpace_head_trim (text : List Char) : ∀ c ∈ (trim text).head?, isWhiteSpace c = false :=
  forall_head?_of_prefix (trimEnd_isPrefix _) (isWhiteSpace_head_trimStart text)

theorem trim_append {before text after : List Char} (hbefore : White before) (hafter : White after)
    (hfirst : ∀ c ∈ text.head?, isWhiteSpace c = false)
    (hlast : ∀ c ∈ text.getLast?, isWhiteSpace c = false) : trim (before ++ (text ++ after)) = text := by
  by_cases hne : text = []
  · subst hne
    have hstart : trimStart (before ++ after) = [] :=
      List.dropWhile_eq_nil_iff.mpr (hbefore.append hafter)
    rw [List.nil_append, trim, hstart, trimEnd_nil]
  · rw [trim, trimStart_append hbefore, trimEnd_append hafter hlast]
    rwa [List.head?_append_of_ne_nil _ hne]

end Text

namespace Command

theorem withoutSemicolon_isPrefix (text : List Char) : withoutSemicolon text <+: text := by
  unfold withoutSemicolon
  split
  · exact List.dropLast_prefix text
  · exact List.prefix_rfl

theorem withoutSemicolon_append {text : List Char} (hopen : text.getLast? ≠ some ';') (more : List Char) :
    withoutSemicolon (text ++ more) = text ++ withoutSemicolon more := by
  rcases List.eq_nil_or_concat more with rfl | ⟨front, c, rfl⟩
  · rw [List.append_nil, withoutSemicolon, if_neg hopen, withoutSemicolon, if_neg (by simp), List.append_nil]
  · rw [List.concat_eq_append, ← List.append_assoc, withoutSemicolon_concat, withoutSemicolon_concat]
    split <;> simp

theorem normalize_isPrefix (line : String) : normalize line <+: Text.trimStart line.toList :=
  (Text.trimEnd_isPrefix _).trans ((withoutSemicolon_isPrefix _).trans (Text.trimEnd_isPrefix _))

theorem isWhiteSpace_head_normalize (line : String) :
    ∀ c ∈ (normalize line).head?, Text.isWhiteSpace c = false :=
  Text.forall_head?_of_prefix (normalize_isPrefix line) (Text.isWhiteSpace_head_trimStart line.toList)

theorem eq_nil_of_white_end {line : String} {front back : List Char}
    (h : normalize line = front ++ back) (hwhite : Text.White back) : back = [] := by
  by_contra hne
  obtain ⟨c, hc⟩ := Option.isSome_iff_exists.mp (List.getLast?_isSome.mpr hne)
  have hlast : (normalize line).getLast? = some c := by
    rw [h, List.getLast?_append, hc, Option.some_or]
  have hsolid := Text.isWhiteSpace_last_trimEnd _ c hlast
  rw [hwhite c (List.mem_of_getLast? hc)] at hsolid
  cases hsolid

theorem isBlank_head_normalize (line : String) :
    ∀ c ∈ (normalize line).head?, Text.isBlank c = false := fun c hc =>
  Text.isBlank_of_not_isWhiteSpace (isWhiteSpace_head_normalize line c hc)

section

variable {line : String} {before text after : List Char}

theorem normalize_spaced (hline : line.toList = before ++ (text ++ after))
    (hbefore : Text.White before) (hafter : Text.White after)
    (hfirst : ∀ c ∈ text.head?, Text.isWhiteSpace c = false)
    (hlast : ∀ c ∈ text.getLast?, Text.isWhiteSpace c = false) (hopen : text.getLast? ≠ some ';') :
    normalize line = text := by
  rw [normalize, hline, Text.trim_append hbefore hafter hfirst hlast, withoutSemicolon, if_neg hopen,
    Text.trimEnd_of_last hlast]

theorem normalize_closed {last : List Char} (hline : line.toList = before ++ (text ++ (after ++ ';' :: last)))
    (hbefore : Text.White before) (hafter : Text.White after) (hbehind : Text.White last)
    (hfirst : ∀ c ∈ text.head?, Text.isWhiteSpace c = false)
    (hlast : ∀ c ∈ text.getLast?, Text.isWhiteSpace c = false) : normalize line = text := by
  have hsemi : Text.isWhiteSpace ';' = false := rfl
  -- With no text the white space in front of the semicolon is taken off before it.
  by_cases hne : text = []
  · subst hne
    have htrim : Text.trim ((before ++ after) ++ ([';'] ++ last)) = [] ++ [';'] :=
      Text.trim_append (hbefore.append hafter) hbehind (by simpa using hsemi) (by simpa using hsemi)
    have hwhole : line.toList = (before ++ after) ++ ([';'] ++ last) := by simp [hline]
    rw [normalize, hwhole, htrim, withoutSemicolon_concat, if_pos rfl, Text.trimEnd_nil]
  · have htrim : Text.trim (before ++ (((text ++ after) ++ [';']) ++ last)) = (text ++ after) ++ [';'] := by
      refine Text.trim_append hbefore hbehind ?_ (by simpa using hsemi)
      rwa [List.append_assoc, List.head?_append_of_ne_nil _ hne]
    have hwhole : line.toList = before ++ (((text ++ after) ++ [';']) ++ last) := by simp [hline]
    rw [normalize, hwhole, htrim, withoutSemicolon_concat, if_pos rfl, Text.trimEnd_append hafter hlast]

/-- What closes a text is not taken off it, whatever follows. -/
theorem exists_normalize_append (hne : text ≠ []) (hfirst : ∀ c ∈ text.head?, Text.isWhiteSpace c = false)
    (hlast : ∀ c ∈ text.getLast?, Text.isWhiteSpace c = false) (hopen : text.getLast? ≠ some ';')
    (hline : line.toList = text ++ after) : ∃ tail, normalize line = text ++ tail := by
  have hhead : ∀ c ∈ (text ++ after).head?, Text.isWhiteSpace c = false := by
    rwa [List.head?_append_of_ne_nil _ hne]
  have hstart : Text.trimStart (text ++ after) = text ++ after := Text.trimStart_append Text.white_nil hhead
  rw [normalize, hline, Text.trim, hstart, Text.trimEnd_append_of_last hlast, withoutSemicolon_append hopen,
    Text.trimEnd_append_of_last hlast]
  exact ⟨_, rfl⟩

theorem normalize_eq_toList {first last : Char}
    (hfirst : line.toList.head? = some first) (hlast : line.toList.getLast? = some last)
    (hf : Text.isWhiteSpace first = false) (hl : Text.isWhiteSpace last = false)
    (hsemi : last ≠ ';') : normalize line = line.toList := by
  have hline : line.toList = [] ++ (line.toList ++ []) := by simp
  exact normalize_spaced hline Text.white_nil Text.white_nil (by simpa [hfirst] using hf)
    (by simpa [hlast] using hl) (by simpa [hlast] using hsemi)

end

end Command

end SchemaShell
