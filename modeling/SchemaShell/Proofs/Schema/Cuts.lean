import SchemaShell.Proofs.Schema.ColumnBlock

/-!
# Where a text is cut

The fields of a text are the text itself, less its separators. Two neighbouring characters stay together
when the first is no separator and the second is a letter or digit, and are cut apart otherwise.
-/

namespace SchemaShell.Schema

variable {text front back : List Char} {c d : Char}

/-- The characters of a text that are no separators. -/
def kept (text : List Char) : List Char :=
  text.filter fun c => !isSeparator c

theorem kept_cons_of_separator (h : isSeparator c = true) (text : List Char) :
    kept (c :: text) = kept text := by
  simp [kept, h]

theorem kept_cons (h : isSeparator c = false) (text : List Char) : kept (c :: text) = c :: kept text := by
  simp [kept, h]

/-! ## One field -/

/-- A character that is no separator, and letters and digits after it. -/
def FieldForm : List Char → Prop
  | [] => False
  | first :: rest => isSeparator first = false ∧ ∀ c ∈ rest, c.isAlphanum = true

theorem FieldForm.mem {field : List Char} (h : FieldForm field) (hc : c ∈ field) : isSeparator c = false := by
  cases field with
  | nil => cases hc
  | cons first rest =>
    rcases List.mem_cons.mp hc with rfl | hc
    · exact h.1
    · exact isSeparator_of_isAlphanum (h.2 c hc)

theorem exists_head_of_continues (h : continues text = true) :
    ∃ d rest, text = d :: rest ∧ d.isAlphanum = true := by
  cases text with
  | nil => cases h
  | cons d rest => exact ⟨d, rest, rfl, h⟩

theorem fieldsOf_cons_of_isAlphanum (hd : d.isAlphanum = true) (text : List Char) :
    ∃ rest others, fieldsOf (d :: text) = (d :: rest) :: others := by
  unfold fieldsOf
  rw [if_neg (by simp [isSeparator_of_isAlphanum hd])]
  split
  · cases fieldsOf text with
    | nil => exact ⟨[], [], rfl⟩
    | cons field others => exact ⟨field, others, rfl⟩
  · exact ⟨[], fieldsOf text, rfl⟩

theorem exists_first_field (h : continues text = true) :
    ∃ d rest others, d.isAlphanum = true ∧ fieldsOf text = (d :: rest) :: others := by
  obtain ⟨d, text, rfl, hd⟩ := exists_head_of_continues h
  obtain ⟨rest, others, hfields⟩ := fieldsOf_cons_of_isAlphanum hd text
  exact ⟨d, rest, others, hd, hfields⟩

theorem fieldForm_of_mem : ∀ field ∈ fieldsOf text, FieldForm field := by
  induction text with
  | nil => simp
  | cons c text ih =>
    intro field hfield
    unfold fieldsOf at hfield
    split at hfield
    · exact ih field hfield
    next hc =>
      have hc := Bool.eq_false_iff.mpr hc
      split at hfield
      · next hcontinues =>
        obtain ⟨d, rest, others, hd, hfields⟩ := exists_first_field hcontinues
        rw [hfields] at hfield ih
        rcases List.mem_cons.mp hfield with rfl | hfield
        · refine ⟨hc, ?_⟩
          intro e he
          rcases List.mem_cons.mp he with rfl | he
          · exact hd
          · exact (ih _ List.mem_cons_self).2 e he
        · exact ih field (List.mem_cons_of_mem _ hfield)
      · rcases List.mem_cons.mp hfield with rfl | hfield
        · exact ⟨hc, by simp⟩
        · exact ih field hfield

/-! ## All fields -/

theorem flatten_fieldsOf (text : List Char) : (fieldsOf text).flatten = kept text := by
  induction text with
  | nil => rfl
  | cons c text ih =>
    unfold fieldsOf
    split
    · next hc => rw [ih, kept_cons_of_separator hc]
    · next hc =>
      rw [kept_cons (Bool.eq_false_iff.mpr hc)]
      split
      · rw [flatten_extendFirst, ih]
      · rw [List.flatten_cons, ih, List.singleton_append]

theorem continues_append (h : continues back = false) (front : List Char) :
    continues (front ++ back) = continues front := by
  cases front with
  | nil => exact h
  | cons c front => rfl

theorem fieldsOf_append (h : continues back = false) (front : List Char) :
    fieldsOf (front ++ back) = fieldsOf front ++ fieldsOf back := by
  induction front with
  | nil => rfl
  | cons c front ih =>
    rw [List.cons_append, fieldsOf, fieldsOf, ih, continues_append h]
    split
    · rfl
    · split
      · next hcontinues =>
        obtain ⟨d, rest, others, -, hfields⟩ := exists_first_field hcontinues
        rw [hfields]
        rfl
      · rfl

theorem continues_cons_of_separator (h : isSeparator c = true) (text : List Char) :
    continues (c :: text) = false := by
  refine Bool.eq_false_iff.mpr ?_
  intro hword
  rw [isSeparator_of_isAlphanum hword] at h
  cases h

theorem fieldsOf_append_separator (h : isSeparator c = true) (front back : List Char) :
    fieldsOf (front ++ c :: back) = fieldsOf front ++ fieldsOf back := by
  rw [fieldsOf_append (continues_cons_of_separator h back), fieldsOf_separator h]

/-! ## Neighbours -/

/-- The characters `c` and `d` behind `front` are in one of the fields. In front of them the fields have
what is kept of `front`, which tells the two from others of the same look. -/
def Together (front : List Char) (c d : Char) (fields : List (List Char)) : Prop :=
  ∃ earlier opened rest later, fields = earlier ++ (opened ++ c :: d :: rest) :: later ∧
    earlier.flatten ++ opened = kept front

theorem together_fieldsOf (hc : isSeparator c = false) (hd : d.isAlphanum = true) (front back : List Char) :
    Together front c d (fieldsOf (front ++ c :: d :: back)) := by
  induction front with
  | nil =>
    obtain ⟨rest, others, hfields⟩ := fieldsOf_cons_of_isAlphanum hd back
    have hcontinues : continues (d :: back) = true := hd
    refine ⟨[], [], rest, others, ?_, rfl⟩
    rw [List.nil_append, fieldsOf, hfields, if_neg (by simp [hc]), if_pos hcontinues]
    rfl
  | cons e front ih =>
    obtain ⟨earlier, opened, rest, later, hfields, hkept⟩ := ih
    rw [List.cons_append, fieldsOf, hfields]
    split
    · next he => exact ⟨earlier, opened, rest, later, rfl, by rw [hkept, kept_cons_of_separator he]⟩
    · next he =>
      rw [Together, kept_cons (Bool.eq_false_iff.mpr he), ← hkept]
      split
      · -- The character joins the first field, which may be the one with the two in it.
        cases earlier with
        | nil => exact ⟨[], e :: opened, rest, later, rfl, rfl⟩
        | cons first earlier => exact ⟨(e :: first) :: earlier, opened, rest, later, rfl, rfl⟩
      · exact ⟨[e] :: earlier, opened, rest, later, rfl, rfl⟩

theorem Together.joins (h : Together front c d (fieldsOf text)) :
    isSeparator c = false ∧ d.isAlphanum = true := by
  obtain ⟨earlier, opened, rest, later, hfields, -⟩ := h
  have hmem : opened ++ c :: d :: rest ∈ fieldsOf text := by simp [hfields]
  have hform := fieldForm_of_mem _ hmem
  refine ⟨hform.mem (by simp), ?_⟩
  cases opened with
  | nil => exact hform.2 d (by simp)
  | cons first opened => exact hform.2 d (by simp)

theorem Together.not_cut {fields others : List (List Char)} (h : Together front c d (fields ++ others)) :
    fields.flatten ≠ kept front ++ [c] := by
  obtain ⟨earlier, opened, rest, later, hsplit, hkept⟩ := h
  intro hcut
  have hlength := congrArg List.length hcut
  rw [← hkept] at hlength
  rcases List.append_eq_append_iff.mp hsplit with ⟨more, rfl, -⟩ | ⟨more, rfl, hmore⟩
  · simp at hlength
  · cases more with
    | nil => simp at hlength
    | cons first more =>
      obtain ⟨rfl, -⟩ := List.cons.inj hmore
      simp at hlength

theorem not_together_of_separators {seps : List Char} (hne : seps ≠ [])
    (hseps : ∀ s ∈ seps, isSeparator s = true) (front back : List Char) :
    ¬ Together front c d (fieldsOf (front ++ c :: (seps ++ back))) := by
  intro h
  obtain ⟨hc, -⟩ := h.joins
  obtain ⟨s, more, rfl⟩ := List.exists_cons_of_ne_nil hne
  have hcut : fieldsOf (front ++ c :: (s :: more ++ back)) =
      fieldsOf (front ++ [c]) ++ fieldsOf (more ++ back) := by
    rw [← fieldsOf_append_separator (hseps s (by simp)), List.append_assoc]
    rfl
  rw [hcut] at h
  apply h.not_cut
  rw [flatten_fieldsOf, kept, List.filter_append, ← kept, ← kept, kept_cons hc]
  rfl

/-- Nothing is lost and nothing is made up: the fields put together are the text without its separators.
Every field begins with a character that is no separator and goes on with letters and digits. Two
characters of the text with nothing but separators between them are in one field just when they are
neighbours, the first is no separator, and the second is a letter or digit. -/
theorem fields_cut_the_text (text : String) :
    (fields text).flatMap String.toList = text.toList.filter (fun c => !isSeparator c) ∧
    (∀ field ∈ fields text, FieldForm field.toList) ∧
    ∀ front c seps d back, text.toList = front ++ c :: (seps ++ d :: back) →
      (∀ s ∈ seps, isSeparator s = true) →
      (Together front c d ((fields text).map String.toList) ↔
        seps = [] ∧ isSeparator c = false ∧ d.isAlphanum = true) := by
  have hfields : (fields text).map String.toList = fieldsOf text.toList := by
    simp [fields_eq, Function.comp_def]
  refine ⟨?_, ?_, ?_⟩
  · rw [List.flatMap_def, hfields]
    exact flatten_fieldsOf text.toList
  · intro field hfield
    have hmem : field.toList ∈ (fields text).map String.toList := List.mem_map_of_mem hfield
    rw [hfields] at hmem
    exact fieldForm_of_mem _ hmem
  · intro front c seps d back htext hseps
    rw [hfields]
    constructor
    · intro h
      refine ⟨?_, h.joins⟩
      by_contra hne
      rw [htext] at h
      exact not_together_of_separators hne hseps front (d :: back) h
    · rintro ⟨rfl, hc, hd⟩
      rw [htext]
      exact together_fieldsOf hc hd front back

theorem fields_cut_the_text_of_signs :
    "_b" ∈ fields "-5 a_b" ∧ FieldForm "_b".toList ∧
    "-5 a_b".toList = [] ++ '-' :: ([] ++ '5' :: " a_b".toList) ∧
    Together [] '-' '5' ((fields "-5 a_b").map String.toList) ∧
    "-5 a_b".toList = "-".toList ++ '5' :: ([' '] ++ 'a' :: "_b".toList) ∧
    ¬ Together "-".toList '5' 'a' ((fields "-5 a_b").map String.toList) := by
  obtain ⟨-, hform, htogether⟩ := fields_cut_the_text "-5 a_b"
  have hmem : "_b" ∈ fields "-5 a_b" := by decide
  refine ⟨hmem, hform _ hmem, rfl, ?_, rfl, ?_⟩
  · exact (htogether [] '-' [] '5' _ rfl (by simp)).mpr ⟨rfl, by decide, by decide⟩
  · intro h
    obtain ⟨hnone, -⟩ := (htogether "-".toList '5' [' '] 'a' _ rfl (by simp; decide)).mp h
    cases hnone

end SchemaShell.Schema
