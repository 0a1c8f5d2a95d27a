import SchemaShell.Proofs.Command.Clause
import SchemaShell.Proofs.Schema.Fields

/-!
# Lists of words

The list between the parentheses of INSERT INTO and SELECT. A word may be followed by more words and
blanks before the next comma, so a list can be taken apart in many ways. Which texts are lists does not
depend on the way, and a list ends at the closing parenthesis.
-/

namespace SchemaShell.Command

open Pattern Shape Written Lead

/-! ## Texts that are lists -/

namespace Written

/-- Between any two commas stands a letter or digit. -/
def WordBetween (text : List Char) : Prop :=
  ∀ before inner behind, text = before ++ ',' :: (inner ++ ',' :: behind) →
    ∃ c ∈ inner, c.isAlphanum = true

/-- Words, blanks and commas, with a word in front and between any two commas. -/
structure WordList (text : List Char) : Prop where
  chars : ∀ c ∈ text, c.isAlphanum = true ∨ Text.isBlank c = true ∨ c = ','
  exists_word : ∃ c ∈ text, c.isAlphanum = true
  front : ∀ c ∈ (text.dropWhile Text.isBlank).head?, c.isAlphanum = true
  between : WordBetween text

def Item (text : List Char) : Prop :=
  (∃ c ∈ text.head?, c.isAlphanum = true) ∧ ∀ c ∈ text, CharClass.alphanumericOrBlank.holds c = true

/-- Items with one comma between two of them, and perhaps one behind the last. -/
structure Items where
  before : Gap
  first : {text : List Char // Item text}
  /-- Each comes with the blanks between its comma and it. -/
  others : List (Gap × {text : List Char // Item text})
  /-- The comma behind the last item, given by the blanks after it. -/
  comma? : Option Gap

def laterItem (item : Gap × {text : List Char // Item text}) : List Char :=
  ',' :: (item.1 ++ item.2)

def Items.text (l : Items) : List Char :=
  l.before ++ (l.first ++ (l.others.flatMap laterItem ++ ColumnRecord.commaText l.comma?))

theorem holds_of_isBlank {c : Char} (h : Text.isBlank c = true) :
    CharClass.alphanumericOrBlank.holds c = true := by
  simp [CharClass.holds, h]

theorem ne_comma_of_holds {c : Char} (h : CharClass.alphanumericOrBlank.holds c = true) : c ≠ ',' := by
  rintro rfl
  revert h
  decide

theorem isAlphanum_of_holds {c : Char} (h : CharClass.alphanumericOrBlank.holds c = true)
    (hc : Text.isBlank c = false) : c.isAlphanum = true := by
  simpa [CharClass.holds, hc] using h

/-! ## A list takes apart into items -/

theorem WordBetween.of_append {front text : List Char} (h : WordBetween (front ++ text)) :
    WordBetween text := by
  intro before inner behind htext
  exact h (front ++ before) inner behind (by rw [htext, List.append_assoc])

theorem exists_item {c : Char} (hc : c.isAlphanum = true) (text : List Char) :
    ∃ item : {text : List Char // Item text}, ∃ rest, c :: text = item ++ rest ∧
      ∀ d ∈ rest.head?, CharClass.alphanumericOrBlank.holds d = false := by
  obtain ⟨front, rest, hsplit, hfront, hrest⟩ := exists_run CharClass.alphanumericOrBlank.holds (c :: text)
  cases front with
  | nil =>
    have hstop := hrest c (by rw [← List.nil_append rest, ← hsplit]; rfl)
    simp [CharClass.holds, hc] at hstop
  | cons d front =>
    obtain ⟨rfl, -⟩ := List.cons.inj hsplit
    exact ⟨⟨c :: front, ⟨c, rfl, hc⟩, hfront⟩, rest, hsplit, hrest⟩

theorem exists_others {text : List Char} (hopen : ∀ c ∈ text.head?, c = ',')
    (hchars : ∀ c ∈ text, CharClass.alphanumericOrBlank.holds c = true ∨ c = ',')
    (hbetween : WordBetween text) :
    ∃ (others : List (Gap × {text : List Char // Item text})) (comma? : Option Gap),
      text = others.flatMap laterItem ++ ColumnRecord.commaText comma? := by
  induction hlength : text.length using Nat.strong_induction_on generalizing text with
  | h n ih =>
    cases text with
    | nil => exact ⟨[], none, rfl⟩
    | cons c more =>
      obtain rfl := hopen c rfl
      obtain ⟨gap, back, rfl, hgap, hback⟩ := exists_run Text.isBlank more
      cases back with
      | nil => exact ⟨[], some ⟨gap, hgap⟩, by simp [ColumnRecord.commaText]⟩
      | cons d back =>
        have hd : d ≠ ',' := by
          rintro rfl
          obtain ⟨c, hc, hword⟩ := hbetween [] gap back rfl
          simp [Text.not_isAlphanum_of_isBlank (hgap c hc)] at hword
        have hword : d.isAlphanum = true :=
          isAlphanum_of_holds ((hchars d (by simp)).resolve_right hd) (hback d rfl)
        obtain ⟨item, rest, hitem, hstop⟩ := exists_item hword back
        have htext : ',' :: (gap ++ d :: back) = (',' :: (gap ++ item)) ++ rest := by
          rw [hitem]
          simp
        rw [htext] at hchars hbetween hlength
        have hrest : ∀ c ∈ rest, CharClass.alphanumericOrBlank.holds c = true ∨ c = ',' :=
          fun c hc => hchars c (List.mem_append_right _ hc)
        have hcomma : ∀ c ∈ rest.head?, c = ',' := fun c hc =>
          (hrest c (List.mem_of_head? hc)).resolve_left (by simp [hstop c hc])
        have hshorter : rest.length < n := by
          rw [List.length_append, List.length_cons] at hlength
          omega
        obtain ⟨others, comma?, hothers⟩ := ih _ hshorter hcomma hrest hbetween.of_append rfl
        exact ⟨(⟨gap, hgap⟩, item) :: others, comma?, by rw [htext, hothers]; simp [laterItem]⟩

theorem WordList.exists_items {text : List Char} (h : WordList text) : ∃ l : Items, text = l.text := by
  obtain ⟨gap, back, rfl, hgap, hback⟩ := exists_run Text.isBlank text
  have hfront := h.front
  rw [List.dropWhile_append_of_pos hgap] at hfront
  cases back with
  | nil =>
    obtain ⟨c, hc, hword⟩ := h.exists_word
    rw [List.append_nil] at hc
    simp [Text.not_isAlphanum_of_isBlank (hgap c hc)] at hword
  | cons c back =>
    have hc : c.isAlphanum = true := hfront c (by simp [hback c rfl])
    obtain ⟨item, rest, hitem, hstop⟩ := exists_item hc back
    have hbetween := h.between
    have hchars := h.chars
    rw [hitem, ← List.append_assoc] at hbetween hchars
    have hrest : ∀ d ∈ rest, CharClass.alphanumericOrBlank.holds d = true ∨ d = ',' := by
      intro d hd
      have hcase := hchars d (List.mem_append_right _ hd)
      rwa [← or_assoc, ← Bool.or_eq_true] at hcase
    have hcomma : ∀ d ∈ rest.head?, d = ',' := fun d hd =>
      (hrest d (List.mem_of_head? hd)).resolve_left (by simp [hstop d hd])
    obtain ⟨others, comma?, rfl⟩ := exists_others hcomma hrest hbetween.of_append
    exact ⟨⟨⟨gap, hgap⟩, item, others, comma?⟩, by rw [hitem]; rfl⟩

/-! ## Items make a list -/

theorem exists_of_append_eq {front text before behind : List Char} {c : Char}
    (h : front ++ text = before ++ c :: behind) (hfront : c ∉ front) :
    ∃ more, before = front ++ more ∧ text = more ++ c :: behind := by
  rcases List.append_eq_append_iff.mp h with ⟨more, hbefore, htext⟩ | ⟨inner, rfl, hinner⟩
  · exact ⟨more, hbefore, htext⟩
  · cases inner with
    | nil => exact ⟨[], by simp, by simpa using hinner.symm⟩
    | cons d inner =>
      obtain ⟨rfl, -⟩ := List.cons.inj hinner
      simp at hfront

theorem wordBetween_of_no_comma {text : List Char} (h : ',' ∉ text) : WordBetween text := by
  intro before inner behind htext
  simp [htext] at h

theorem WordBetween.append {front text : List Char} (h : WordBetween text) (hfront : ',' ∉ front) :
    WordBetween (front ++ text) := by
  intro before inner behind htext
  obtain ⟨more, -, hmore⟩ := exists_of_append_eq htext hfront
  exact h more inner behind hmore

theorem WordBetween.cons {front text : List Char} (h : WordBetween text) (hfront : ',' ∉ front)
    (hword : ∃ c ∈ front, c.isAlphanum = true) : WordBetween (',' :: (front ++ text)) := by
  intro before inner behind htext
  cases before with
  | nil =>
    obtain ⟨more, rfl, -⟩ := exists_of_append_eq (List.cons.inj htext).2 hfront
    obtain ⟨c, hc, hword⟩ := hword
    exact ⟨c, List.mem_append_left _ hc, hword⟩
  | cons d before => exact h.append hfront before inner behind (List.cons.inj htext).2

theorem no_comma_of_holds {text : List Char}
    (h : ∀ c ∈ text, CharClass.alphanumericOrBlank.holds c = true) : ',' ∉ text :=
  fun hc => ne_comma_of_holds (h _ hc) rfl

theorem holds_of_gap (gap : Gap) : ∀ c ∈ gap.val, CharClass.alphanumericOrBlank.holds c = true :=
  fun c hc => holds_of_isBlank (gap.2 c hc)

theorem wordBetween_others (others : List (Gap × {text : List Char // Item text})) (comma? : Option Gap) :
    WordBetween (others.flatMap laterItem ++ ColumnRecord.commaText comma?) := by
  induction others with
  | nil =>
    cases comma? with
    | none => exact wordBetween_of_no_comma (by simp [ColumnRecord.commaText])
    | some gap =>
      -- A single comma is not between two.
      intro before inner behind htext
      have hgap := no_comma_of_holds (holds_of_gap gap)
      cases before with
      | nil => simp [(List.cons.inj htext).2] at hgap
      | cons d before => simp [(List.cons.inj htext).2] at hgap
  | cons item others ih =>
    obtain ⟨gap, item, ⟨c, hc, hword⟩, hitem⟩ := item
    have hfront : ',' ∉ gap.val ++ item := by
      simp [no_comma_of_holds (holds_of_gap gap), no_comma_of_holds hitem]
    have hone := ih.cons hfront ⟨c, by simp [List.mem_of_head? hc], hword⟩
    simpa [laterItem] using hone

theorem chars_of_others (others : List (Gap × {text : List Char // Item text})) (comma? : Option Gap) :
    ∀ c ∈ others.flatMap laterItem ++ ColumnRecord.commaText comma?,
      CharClass.alphanumericOrBlank.holds c = true ∨ c = ',' := by
  intro c hc
  rcases List.mem_append.mp hc with hc | hc
  · obtain ⟨⟨gap, item⟩, -, hc⟩ := List.mem_flatMap.mp hc
    rcases List.mem_cons.mp hc with rfl | hc
    · exact Or.inr rfl
    · rcases List.mem_append.mp hc with hc | hc
      · exact Or.inl (holds_of_gap gap c hc)
      · exact Or.inl (item.2.2 c hc)
  · cases comma? with
    | none => simp [ColumnRecord.commaText] at hc
    | some gap =>
      rcases List.mem_cons.mp hc with rfl | hc
      · exact Or.inr rfl
      · exact Or.inl (holds_of_gap gap c hc)

theorem Items.wordList (l : Items) : WordList l.text := by
  obtain ⟨c, hc, hword⟩ := l.first.2.1
  have hfront : ∀ d ∈ l.before.val ++ l.first, CharClass.alphanumericOrBlank.holds d = true := by
    intro d hd
    rcases List.mem_append.mp hd with hd | hd
    · exact holds_of_gap l.before d hd
    · exact l.first.2.2 d hd
  have htext : l.text = (l.before.val ++ l.first) ++
      (l.others.flatMap laterItem ++ ColumnRecord.commaText l.comma?) := by
    rw [Items.text, List.append_assoc]
  refine ⟨?_, ⟨c, ?_, hword⟩, ?_, ?_⟩
  · intro d hd
    rw [htext] at hd
    rw [← or_assoc, ← Bool.or_eq_true]
    rcases List.mem_append.mp hd with hd | hd
    · exact Or.inl (hfront d hd)
    · exact chars_of_others l.others l.comma? d hd
  · simp [Items.text, List.mem_of_head? hc]
  · intro d hd
    obtain ⟨more, hmore⟩ := List.head?_eq_some_iff.mp hc
    rw [Items.text, List.dropWhile_append_of_pos l.before.2, hmore, List.cons_append,
      List.dropWhile_cons_of_neg (by simp [Text.isBlank_of_isAlphanum hword])] at hd
    obtain rfl : c = d := by simpa using hd
    exact hword
  · rw [htext]
    exact (wordBetween_others l.others l.comma?).append (no_comma_of_holds hfront)

theorem WordList.fields_eq {text : List Char} (h : WordList text) :
    Schema.fieldsOf text = Text.alphanumericRuns text := by
  refine Schema.fieldsOf_eq_runs fun c hc => ?_
  rcases h.chars c hc with hword | hblank | rfl
  · exact Or.inl hword
  · exact Or.inr (Schema.isSeparator_of_isBlank hblank)
  · exact Or.inr rfl

end Written

/-! ## The pattern of a list -/

variable {field : Field} {text rest : List Char} {parts : List (Field × List Char)}

namespace Shape

def later : Shape := inOrder [mark ',', gap, item]

def list : Shape := inOrder [gap, item, many later, optional (seq (mark ',') gap)]

theorem plain_item : Plain item Item := by
  have hwords : Plain (run .alphanumericOrBlank 0) fun t =>
      ∀ c ∈ t, CharClass.alphanumericOrBlank.holds c = true := by
    intro t ps
    simp [Derives]
  intro t ps
  simp only [item, (plain_run_one .alphanumeric).seq_iff, hwords _ _]
  constructor
  · rintro ⟨word, ⟨hne, hword⟩, back, rfl, hback, rfl⟩
    obtain ⟨c, word, rfl⟩ := List.exists_cons_of_ne_nil hne
    refine ⟨⟨⟨c, rfl, hword c (by simp)⟩, fun d hd => ?_⟩, rfl⟩
    rcases List.mem_append.mp hd with hd | hd
    · exact Bool.or_eq_true_iff.mpr (Or.inl (hword d hd))
    · exact hback d hd
  · rintro ⟨⟨⟨c, hc, hword⟩, hholds⟩, rfl⟩
    obtain ⟨back, rfl⟩ := List.head?_eq_some_iff.mp hc
    exact ⟨[c], by simpa [CharClass.holds] using hword, back, rfl, fun d hd => hholds d (by simp [hd]), rfl⟩

theorem plain_later :
    Plain later fun t => ∃ item : Gap × {text : List Char // Item text}, t = laterItem item := by
  intro t ps
  simp only [later, inOrder, derives_mark_seq, plain_gap.seq_iff_exists, plain_item _ _]
  constructor
  · rintro ⟨_, rfl, gap, item, rfl, hitem, rfl⟩
    exact ⟨⟨(gap, ⟨item, hitem⟩), rfl⟩, rfl⟩
  · rintro ⟨⟨⟨gap, item⟩, rfl⟩, rfl⟩
    exact ⟨_, rfl, gap, item, rfl, item.2, rfl⟩

theorem plain_laters :
    Plain (many later) fun t =>
      ∃ others : List (Gap × {text : List Char // Item text}), t = others.flatMap laterItem :=
  plain_later.many fun item => by simp [laterItem]

theorem plain_list : Plain list fun t => ∃ l : Items, t = l.text := by
  intro t ps
  simp only [list, inOrder, plain_gap.seq_iff_exists, plain_item.seq_iff_exists, plain_laters.seq_iff,
    plain_comma _ _]
  constructor
  · rintro ⟨before, _, rfl, first, _, rfl, _, ⟨others, rfl⟩, _, rfl, ⟨comma?, rfl⟩, rfl⟩
    exact ⟨⟨⟨before, first, others, comma?⟩, rfl⟩, rfl⟩
  · rintro ⟨⟨l, rfl⟩, rfl⟩
    exact ⟨l.before, _, rfl, l.first, _, rfl, _, ⟨l.others, rfl⟩, _, rfl, ⟨l.comma?, rfl⟩, rfl⟩

theorem derives_items_seq {p : Shape} :
    (seq (items field) p).Derives text parts ↔
      ∃ list : {text : List Char // WordList text}, ∃ back later, text = list ++ back ∧
        parts = (field, list.val) :: later ∧ p.Derives back later := by
  constructor
  · rintro ⟨front, back, _, later, ⟨inner, hfront, rfl⟩, hback, rfl, rfl⟩
    obtain ⟨⟨l, rfl⟩, rfl⟩ := (plain_list _ _).mp hfront
    exact ⟨⟨_, l.wordList⟩, back, later, rfl, rfl, hback⟩
  · rintro ⟨list, back, later, rfl, rfl, hback⟩
    have hlist : (items field).Derives list [(field, list.val)] :=
      ⟨[], (plain_list _ _).mpr ⟨list.2.exists_items, rfl⟩, rfl⟩
    exact hlist.seq hback

end Shape

/-! ## Reading a list -/

theorem read?_item (h : Item text)
    (hrest : ∀ c ∈ rest.head?, CharClass.alphanumericOrBlank.holds c = false) :
    item.read? (text ++ rest) = some ⟨text, [], rest⟩ := by
  obtain ⟨⟨first, hfirst, hletter⟩, hholds⟩ := h
  obtain ⟨word, back, rfl, hword, hback⟩ := exists_run CharClass.alphanumeric.holds text
  have hne : word ≠ [] := by
    rintro rfl
    have hstop : CharClass.alphanumeric.holds first = false := hback first hfirst
    simp [CharClass.holds, hletter] at hstop
  have hstop : ∀ c ∈ (back ++ rest).head?, CharClass.alphanumeric.holds c = false := by
    intro c hc
    cases back with
    | nil => exact (Bool.or_eq_false_iff.mp (hrest c hc)).1
    | cons d back => exact hback c hc
  have hrun : (run .alphanumeric 1 : Shape).read? (word ++ (back ++ rest)) =
      some ⟨word, [], back ++ rest⟩ :=
    read?_run hword (List.length_pos_iff.mpr hne) hstop
  have hmore : (run .alphanumericOrBlank 0 : Shape).read? (back ++ rest) = some ⟨back, [], rest⟩ :=
    read?_run (fun c hc => hholds c (List.mem_append_right _ hc)) (Nat.zero_le _) hrest
  have hread := read?_seq hrun hmore
  rw [List.append_assoc]
  simpa [item, Reading.followedBy] using hread

theorem holds_of_before (h : Before [.mark ',', .mark ')'] rest) :
    ∀ c ∈ rest.head?, CharClass.alphanumericOrBlank.holds c = false := by
  intro c hc
  obtain ⟨lead, hlead, hholds⟩ := h c hc
  simp only [List.mem_cons, List.not_mem_nil, or_false] at hlead
  rcases hlead with rfl | rfl <;> (obtain rfl : c = _ := hholds; rfl)

theorem before_others (others : List (Gap × {text : List Char // Item text})) (comma? : Option Gap) :
    Before [.mark ',', .mark ')']
      (others.flatMap laterItem ++ (ColumnRecord.commaText comma? ++ ')' :: rest)) := by
  cases others with
  | cons other others => simp [laterItem, Holds]
  | nil => cases comma? <;> simp [ColumnRecord.commaText, Holds]

theorem readings_later_eq_nil (comma? : Option Gap) :
    later.readings (ColumnRecord.commaText comma? ++ ')' :: rest) = [] := by
  cases comma? with
  | none =>
    have hbefore : Before [.mark ')'] (')' :: rest) := Lead.before_cons.mpr ⟨.mark ')', by simp, rfl⟩
    exact readings_eq_nil (p := later) (by decide) (by decide) hbefore
  | some gap =>
    refine readings_mark_seq_eq_nil (readings_run_seq_eq_nil gap.2 ?_ ?_)
    · intro c hc
      obtain rfl : ')' = c := by simpa using hc
      rfl
    · have hbefore : Before [.mark ')'] (')' :: rest) := Lead.before_cons.mpr ⟨.mark ')', by simp, rfl⟩
      exact readings_eq_nil (p := item) (by decide) (by decide) hbefore

theorem read?_laters (others : List (Gap × {text : List Char // Item text})) (comma? : Option Gap) :
    (many later).read? (others.flatMap laterItem ++ (ColumnRecord.commaText comma? ++ ')' :: rest)) =
      some ⟨others.flatMap laterItem, [], ColumnRecord.commaText comma? ++ ')' :: rest⟩ := by
  have hround : ∀ text parts rest, later.Derives text parts →
      Before ((many later).ahead [.mark ',', .mark ')']) rest →
      later.read? (text ++ rest) = some ⟨text, parts, rest⟩ := by
    intro text parts rest hd hbefore
    obtain ⟨⟨⟨blanks, item⟩, rfl⟩, rfl⟩ := (plain_later _ _).mp hd
    have hahead : (many later).ahead [.mark ',', .mark ')'] = [.mark ',', .mark ',', .mark ')'] := rfl
    have hnext : Before [.mark ',', .mark ')'] rest := by
      intro c hc
      obtain ⟨lead, hlead, hholds⟩ := hbefore c hc
      exact ⟨lead, by simpa [hahead] using hlead, hholds⟩
    have hgap : ∀ c ∈ (item ++ rest).head?, CharClass.blank.holds c = false := by
      obtain ⟨c, hc, hword⟩ := item.2.1
      obtain ⟨more, hmore⟩ := List.head?_eq_some_iff.mp hc
      intro d hd
      obtain rfl : c = d := by simpa [hmore] using hd
      exact Text.isBlank_of_isAlphanum hword
    have hblanks : Shape.gap.read? (blanks ++ (item ++ rest)) = some ⟨blanks, [], item ++ rest⟩ :=
      read?_run blanks.2 (Nat.zero_le _) hgap
    have hcomma : (mark ',' : Shape).read? (',' :: (blanks ++ (item ++ rest))) =
        some ⟨[','], [], blanks ++ (item ++ rest)⟩ := rfl
    have hread := read?_seq hcomma (read?_seq hblanks (read?_item item.2 (holds_of_before hnext)))
    simpa [later, inOrder, laterItem, Reading.followedBy] using hread
  have hlaters := (plain_laters _ _).mpr ⟨⟨others, rfl⟩, rfl⟩
  simp only [Pattern.read?, readings, List.head?_cons, Option.some.injEq]
  exact rounds_eq hround (readings_later_eq_nil comma?) (before_others [] comma?) hlaters _ (by simp)

theorem read?_items (h : WordList text) :
    (items field).read? (text ++ ')' :: rest) = some ⟨text, [(field, text)], ')' :: rest⟩ := by
  obtain ⟨⟨before, first, others, comma?⟩, rfl⟩ := h.exists_items
  obtain ⟨c, hc, hword⟩ := first.2.1
  obtain ⟨more, hfirst⟩ := List.head?_eq_some_iff.mp hc
  let behind := others.flatMap laterItem ++ (ColumnRecord.commaText comma? ++ ')' :: rest)
  have hgap : Shape.gap.read? (before ++ (first ++ behind)) = some ⟨before, [], first ++ behind⟩ := by
    refine read?_run before.2 (Nat.zero_le _) fun d hd => ?_
    obtain rfl : c = d := by simpa [hfirst] using hd
    exact Text.isBlank_of_isAlphanum hword
  have hbehind : Before [.mark ',', .mark ')'] behind := before_others others comma?
  have hbefore : Before [.mark ')'] (')' :: rest) := Lead.before_cons.mpr ⟨.mark ')', by simp, rfl⟩
  have hcomma : (optional (seq (mark ',') Shape.gap)).read? (ColumnRecord.commaText comma? ++ ')' :: rest) =
      some ⟨ColumnRecord.commaText comma?, [], ')' :: rest⟩ :=
    read?_of_settled (by decide) ((plain_comma _ _).mpr ⟨⟨comma?, rfl⟩, rfl⟩) hbefore
  have hread := read?_seq hgap (read?_seq (read?_item first.2 (holds_of_before hbehind))
    (read?_seq (read?_laters others comma?) hcomma))
  have hlist : list.read? (Items.text ⟨before, first, others, comma?⟩ ++ ')' :: rest) =
      some ⟨Items.text ⟨before, first, others, comma?⟩, [], ')' :: rest⟩ := by
    simpa [list, inOrder, Items.text, behind, Reading.followedBy] using hread
  exact read?_part hlist

theorem read?_parenthesised (h : WordList text) :
    (inOrder [mark '(', items field, mark ')']).read? ('(' :: (text ++ ')' :: rest)) =
      some ⟨'(' :: (text ++ [')']), [(field, text)], rest⟩ := by
  have hopen : (mark '(' : Shape).read? ('(' :: (text ++ ')' :: rest)) =
      some ⟨['('], [], text ++ ')' :: rest⟩ := rfl
  have hclose : (mark ')' : Shape).read? (')' :: rest) = some ⟨[')'], [], rest⟩ := rfl
  exact read?_seq hopen (read?_seq (read?_items h) hclose)

end SchemaShell.Command
