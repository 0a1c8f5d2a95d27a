import SchemaShell.Proofs.Command.ItemList
import SchemaShell.Proofs.Regex.Agreement

/-!
# Lists of words, round by round

An expression for a list may read it in rounds of one word each, where a comma may be left out. The lists
that are read so are those that are read item by item.
-/

namespace SchemaShell.Command

open Pattern Shape Written

/-! ## Rounds -/

namespace Written

/-- A word with the blanks around it, and perhaps a comma after it, given by the blanks behind. -/
structure WordRound where
  word : Spaced Word
  comma? : Option Gap

def WordRound.text (r : WordRound) : List Char :=
  r.word.whole ++ ColumnRecord.commaText r.comma?

variable {text : List Char}

theorem no_comma_of_spaced (w : Spaced Word) : ',' ∉ w.whole := by
  refine no_comma_of_holds fun c hc => ?_
  simp only [Spaced.whole, List.mem_append] at hc
  rcases hc with hc | hc | hc
  · exact holds_of_gap w.before c hc
  · simp [CharClass.holds, w.isToken.2 c hc]
  · exact holds_of_gap w.after c hc

/-! ## A list takes apart into rounds -/

theorem WordList.of_append {front : List Char} {c : Char} (h : WordList (front ++ c :: text))
    (hc : c.isAlphanum = true) : WordList (c :: text) where
  chars d hd := h.chars d (List.mem_append_right _ hd)
  exists_word := ⟨c, by simp, hc⟩
  front d hd := by
    rw [List.dropWhile_cons_of_neg (by simp [Text.isBlank_of_isAlphanum hc])] at hd
    obtain rfl : c = d := by simpa using hd
    exact hc
  between := h.between.of_append

theorem WordList.exists_front (h : WordList text) :
    ∃ (before : Gap) (c : Char) (back : List Char), text = before ++ c :: back ∧ c.isAlphanum = true := by
  obtain ⟨before, back, rfl, hbefore, hback⟩ := exists_run Text.isBlank text
  cases back with
  | nil =>
    obtain ⟨c, hc, hword⟩ := h.exists_word
    rw [List.append_nil] at hc
    simp [Text.not_isAlphanum_of_isBlank (hbefore c hc)] at hword
  | cons c back =>
    refine ⟨⟨before, hbefore⟩, c, back, rfl, h.front c ?_⟩
    rw [List.dropWhile_append_of_pos hbefore, List.dropWhile_cons_of_neg (by simp [hback c rfl])]
    rfl

/-- The round at the front of a list, and what begins with the word of another one. -/
theorem WordList.exists_round (h : WordList text) :
    ∃ (r : WordRound) (rest : List Char), text = r.text ++ rest ∧ ∀ c ∈ rest.head?, c.isAlphanum = true := by
  obtain ⟨before, first, back, rfl, hfirst⟩ := h.exists_front
  obtain ⟨word, back', hsplit, hword, hstop⟩ := exists_run Char.isAlphanum (first :: back)
  obtain ⟨after, rest, rfl, hafter, hrest⟩ := exists_run Text.isBlank back'
  have hne : word ≠ [] := by
    rintro rfl
    rw [List.nil_append] at hsplit
    simp [hstop first (by rw [← hsplit]; rfl)] at hfirst
  rw [hsplit] at h ⊢
  let w : Spaced Word := ⟨before, word, ⟨after, hafter⟩, hne, hword⟩
  -- What comes behind the blanks is a comma or the next word.
  have hnext : ∀ c ∈ rest.head?, c = ',' ∨ c.isAlphanum = true := by
    intro c hc
    have hmem : c ∈ before.val ++ (word ++ (after ++ rest)) := by simp [List.mem_of_head? hc]
    rcases h.chars c hmem with hc' | hc' | hc'
    · exact Or.inr hc'
    · simp [hrest c hc] at hc'
    · exact Or.inl hc'
  cases rest with
  | nil => exact ⟨⟨w, none⟩, [], by simp [WordRound.text, Spaced.whole, ColumnRecord.commaText, w], by simp⟩
  | cons c rest =>
    rcases hnext c rfl with rfl | hc
    · obtain ⟨gap, rest, rfl, hgap, hrest'⟩ := exists_run Text.isBlank rest
      refine ⟨⟨w, some ⟨gap, hgap⟩⟩, rest, by simp [WordRound.text, Spaced.whole, ColumnRecord.commaText, w], ?_⟩
      intro c hc
      have hmem : c ∈ before.val ++ (word ++ (after ++ ',' :: (gap ++ rest))) := by simp [List.mem_of_head? hc]
      rcases h.chars c hmem with hc' | hc' | rfl
      · exact hc'
      · simp [hrest' c hc] at hc'
      · -- Two commas with nothing but blanks between them.
        obtain ⟨behind, rfl⟩ := List.head?_eq_some_iff.mp hc
        obtain ⟨d, hd, hd'⟩ := h.between (before.val ++ (word ++ after)) gap behind (by simp)
        simp [Text.not_isAlphanum_of_isBlank (hgap d hd)] at hd'
    · exact ⟨⟨w, none⟩, c :: rest, by simp [WordRound.text, Spaced.whole, ColumnRecord.commaText, w],
        by simpa using hc⟩

theorem WordRound.text_ne_nil (r : WordRound) : r.text ≠ [] := by
  simp [text, Spaced.whole, r.word.isToken.1]

theorem WordList.exists_rounds (h : WordList text) :
    ∃ rs : List WordRound, rs ≠ [] ∧ text = rs.flatMap WordRound.text := by
  induction hlength : text.length using Nat.strong_induction_on generalizing text with
  | h n ih =>
    obtain ⟨r, rest, rfl, hrest⟩ := h.exists_round
    cases rest with
    | nil => exact ⟨[r], by simp, by simp⟩
    | cons c rest =>
      have hshorter : (c :: rest).length < n := by
        have hpos := List.length_pos_iff.mpr r.text_ne_nil
        rw [List.length_append] at hlength
        omega
      obtain ⟨rs, -, hrs⟩ := ih _ hshorter (h.of_append (hrest c rfl)) rfl
      exact ⟨r :: rs, by simp, by rw [List.flatMap_cons, ← hrs]⟩

/-! ## Rounds make a list -/

theorem WordList.between_comma (h : WordList text) (gap : Gap) : WordBetween (',' :: (gap ++ text)) := by
  obtain ⟨before, c, back, rfl, hc⟩ := h.exists_front
  have hfront : ',' ∉ gap.val ++ before.val := by
    simp [no_comma_of_holds (holds_of_gap gap), no_comma_of_holds (holds_of_gap before)]
  have hbetween := h.between.append (no_comma_of_holds (holds_of_gap gap))
  intro left inner right hsplit
  cases left with
  | cons d left => exact hbetween left inner right (List.cons.inj hsplit).2
  | nil =>
    have hsplit : (gap.val ++ before.val) ++ c :: back = inner ++ ',' :: right := by
      simpa using (List.cons.inj hsplit).2
    obtain ⟨more, rfl, hmore⟩ := exists_of_append_eq hsplit hfront
    cases more with
    | nil =>
      obtain ⟨rfl, -⟩ := List.cons.inj hmore
      exact absurd hc (by decide)
    | cons d more =>
      obtain ⟨rfl, -⟩ := List.cons.inj hmore
      exact ⟨c, by simp, hc⟩

theorem between_commaText (h : text = [] ∨ WordList text) (comma? : Option Gap) :
    WordBetween (ColumnRecord.commaText comma? ++ text) := by
  rcases h with rfl | h
  · simpa using wordBetween_others [] comma?
  · cases comma? with
    | none => exact h.between
    | some gap => exact h.between_comma gap

theorem WordRound.wordList_append (r : WordRound) (h : text = [] ∨ WordList text) :
    WordList (r.text ++ text) := by
  obtain ⟨first, more, hword⟩ := List.exists_cons_of_ne_nil r.word.isToken.1
  have hfirst : first.isAlphanum = true := r.word.isToken.2 first (by simp [hword])
  have hgap : ∀ gap : Gap, ∀ c ∈ gap.val, c.isAlphanum = true ∨ Text.isBlank c = true ∨ c = ',' :=
    fun gap c hc => Or.inr (Or.inl (gap.2 c hc))
  have htext : r.text ++ text = r.word.whole ++ (ColumnRecord.commaText r.comma? ++ text) := by
    rw [WordRound.text, List.append_assoc]
  refine ⟨?_, ⟨first, ?_, hfirst⟩, ?_, ?_⟩
  · intro c hc
    simp only [WordRound.text, Spaced.whole, List.mem_append] at hc
    rcases hc with ((hc | hc | hc) | hc) | hc
    · exact hgap _ c hc
    · exact Or.inl (r.word.isToken.2 c hc)
    · exact hgap _ c hc
    · cases hcomma : r.comma? with
      | none => simp [hcomma, ColumnRecord.commaText] at hc
      | some gap =>
        rw [hcomma] at hc
        rcases List.mem_cons.mp hc with rfl | hc
        · exact Or.inr (Or.inr rfl)
        · exact hgap gap c hc
    · rcases h with rfl | h
      · cases hc
      · exact h.chars c hc
  · simp [WordRound.text, Spaced.whole, hword]
  · intro c hc
    rw [htext, Spaced.whole, List.append_assoc, List.dropWhile_append_of_pos r.word.before.2, hword,
      List.cons_append, List.cons_append,
      List.dropWhile_cons_of_neg (by simp [Text.isBlank_of_isAlphanum hfirst])] at hc
    obtain rfl : first = c := by simpa using hc
    exact hfirst
  · rw [htext]
    exact (between_commaText h r.comma?).append (no_comma_of_spaced r.word)

theorem wordList_of_rounds {rs : List WordRound} (h : rs ≠ []) : WordList (rs.flatMap WordRound.text) := by
  induction rs with
  | nil => exact absurd rfl h
  | cons r rs ih =>
    rw [List.flatMap_cons]
    refine r.wordList_append ?_
    cases rs with
    | nil => exact Or.inl rfl
    | cons next rs => exact Or.inr (ih (by simp))

end Written

/-! ## The expression of a list -/

namespace Shape

/-- A word with the blanks around it, and perhaps a comma and blanks. -/
def wordRound : Shape := inOrder [gap, run .alphanumeric 1, gap, optional (mark ','), gap]

theorem plain_wordRound : Plain wordRound fun t => ∃ r : WordRound, t = r.text := by
  have hsplit : wordRound = seq gap (seq (run .alphanumeric 1) (inOrder [gap, optional (mark ','), gap])) := rfl
  intro t ps
  simp only [hsplit, plain_gap.seq_iff, (plain_run_one .alphanumeric).seq_iff, plain_looseComma _ _]
  constructor
  · rintro ⟨before, hbefore, _, rfl, word, hword, _, rfl, ⟨after, comma?, rfl⟩, rfl⟩
    refine ⟨⟨⟨⟨⟨before, hbefore⟩, word, after, hword⟩, comma?⟩, ?_⟩, rfl⟩
    simp [WordRound.text, Spaced.whole]
  · rintro ⟨⟨r, rfl⟩, rfl⟩
    refine ⟨r.word.before, r.word.before.2, _, ?_, r.word.text, r.word.isToken, _, rfl,
      ⟨r.word.after, r.comma?, rfl⟩, rfl⟩
    simp [WordRound.text, Spaced.whole]

theorem plain_wordRounds : Plain (oneOrMore wordRound) WordList := by
  intro t ps
  rw [plain_wordRound.oneOrMore WordRound.text_ne_nil]
  refine and_congr_left fun _ => ⟨?_, WordList.exists_rounds⟩
  rintro ⟨rs, hrs, rfl⟩
  exact wordList_of_rounds hrs

theorem derives_items_iff {text : List Char} {parts : List (Field × List Char)} {field : Field} :
    (items field).Derives text parts ↔ (part field (oneOrMore wordRound)).Derives text parts := by
  have hlist : Plain list WordList := by
    intro t ps
    rw [plain_list]
    refine and_congr_left fun _ => ⟨?_, WordList.exists_items⟩
    rintro ⟨l, rfl⟩
    exact l.wordList
  exact exists_congr fun inner => and_congr_left fun _ => (hlist _ _).trans (plain_wordRounds _ _).symm

/-- An expression that reads a list in rounds finds what the pattern of the list reads. -/
theorem agrees_items {number : Field → Nat} {next : List Char → Bool} (field : Field)
    (hnext : ∀ rest, next rest = true → ∃ more, rest = ')' :: more) :
    (Regex.captured (number field) (.repeated 1 none true (wordRound.regex number))).readings.Agrees number
      (items field) next := by
  have hspans : (Regex.captured (number field) (.repeated 1 none true (wordRound.regex number))).readings.Spans
      ((items field).language number) :=
    spans_part_oneOrMore (by decide) (by decide) fun _ _ => derives_items_iff.symm
  refine hspans.agrees_of_read? fun text parts rest hd hrest => ?_
  obtain ⟨more, rfl⟩ := hnext rest hrest
  obtain ⟨inner, hinner, rfl⟩ := derives_items_iff.mp hd
  obtain ⟨hlist, rfl⟩ := (plain_wordRounds _ _).mp hinner
  exact read?_items hlist

end Shape

end SchemaShell.Command
