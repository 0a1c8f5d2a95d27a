import SchemaShell.Proofs.Command.CreateTable

/-!
# Reading CREATE INDEX

The words IF NOT EXISTS may stand in front of the name of the index, and the name may be any of these
words itself. The word ON behind the name tells the two apart, so every form is read as it is written.
-/

namespace SchemaShell.Command

open Pattern Shape Written

/-! ## Written forms -/

namespace Written

/-- The blanks behind CREATE INDEX, perhaps with the words IF NOT EXISTS among them. -/
inductive Guard where
  | plain (blanks : Space)
  | guarded (before : Gap) (words : {text : List Char // Phrase ["IF", "NOT", "EXISTS"] text}) (after : Space)

namespace Guard

def text : Guard → List Char
  | plain blanks => blanks
  | guarded before words after => before ++ (words ++ after)

def clauseText : Guard → List Char
  | plain _ => []
  | guarded _ words _ => words

def parts : Guard → List (Field × List Char)
  | plain _ => []
  | guarded _ words _ => [(.ifNotExists, words)]

theorem parts_eq (g : Guard) : g.parts = if g.clauseText = [] then [] else [(.ifNotExists, g.clauseText)] := by
  rcases g with _ | ⟨_, words, _⟩
  · rfl
  · obtain ⟨first, gap, back, -, hgap, -, -, hsplit⟩ := words.2
    have hne : words.val ≠ [] := by simp [hsplit, hgap]
    rw [clauseText, if_neg hne, parts]

end Guard

structure CreateIndex where
  opening : Opening .createIndex
  guard : Guard
  index : Name
  beforeOn : Space
  on : Keyword "ON"
  afterOn : Space
  table : Name
  afterTable : Gap
  beforeColumn : Gap
  column : Name
  afterColumn : Gap

namespace CreateIndex

def target (f : CreateIndex) : List Char :=
  f.beforeOn ++ (f.on ++ (f.afterOn ++ (f.table ++ (f.afterTable ++ '(' :: (f.beforeColumn ++ (f.column ++
    (f.afterColumn ++ [')'])))))))

def text (f : CreateIndex) : List Char :=
  f.opening ++ (f.guard.text ++ (f.index ++ f.target))

def parts (f : CreateIndex) : List (Field × List Char) :=
  f.guard.parts ++ [(Field.index, f.index.val), (Field.table, f.table.val), (Field.column, f.column.val)]

def command (f : CreateIndex) (rest : List Char) : Command :=
  ofReading .createIndex ⟨f.text, f.parts, rest⟩

theorem captures_command (f : CreateIndex) (rest : List Char) :
    (f.command rest).captures =
      [(.ifNotExists, String.ofList f.guard.clauseText), (.index, String.ofList f.index),
        (.table, String.ofList f.table), (.column, String.ofList f.column)] := by
  rcases f with ⟨_, _ | _, _⟩ <;> rfl

theorem parts_eq_of_command {f g : CreateIndex} {rest more : List Char} (h : f.command rest = g.command more) :
    f.parts = g.parts := by
  have hcaptures := congrArg captures h
  simp only [captures_command, List.cons.injEq, Prod.mk.injEq, String.ofList_inj, true_and, and_true]
    at hcaptures
  obtain ⟨hclause, hindex, htable, hcolumn⟩ := hcaptures
  rw [parts, parts, Guard.parts_eq, Guard.parts_eq, hclause, hindex, htable, hcolumn]

end CreateIndex

end Written

variable {line : String} {command : Command} {text rest : List Char} {parts : List (Field × List Char)}

/-! ## What the shape derives -/

namespace Shape

def guard : Shape := either (inOrder [gap, ifNotExists, blanks]) blanks

def indexed : Shape :=
  inOrder
    [word .index, blanks, keyword "ON", blanks, word .table, gap, mark '(', gap, word .column, gap, mark ')']

theorem body_createIndex : Kind.createIndex.body = seq guard indexed := rfl

theorem derives_guarded :
    (inOrder [gap, Shape.ifNotExists, blanks]).Derives text parts ↔
      ∃ before words after, text = (Guard.guarded before words after).text ∧
        parts = (Guard.guarded before words after).parts := by
  simp only [inOrder, plain_gap.seq_iff_exists, derives_ifNotExists_seq, plain_blanks _ _]
  constructor
  · rintro ⟨before, _, rfl, words, after, _, rfl, rfl, hafter, rfl⟩
    exact ⟨before, words, ⟨after, hafter⟩, rfl, rfl⟩
  · rintro ⟨before, words, after, rfl, rfl⟩
    exact ⟨before, _, rfl, words, after, _, rfl, rfl, after.2, rfl⟩

theorem derives_guard : guard.Derives text parts ↔ ∃ g : Guard, text = g.text ∧ parts = g.parts := by
  constructor
  · rintro (hguarded | hplain)
    · obtain ⟨before, words, after, rfl, rfl⟩ := derives_guarded.mp hguarded
      exact ⟨.guarded before words after, rfl, rfl⟩
    · obtain ⟨hblanks, rfl⟩ := (plain_blanks _ _).mp hplain
      exact ⟨.plain ⟨text, hblanks⟩, rfl, rfl⟩
  · rintro ⟨blanks | ⟨before, words, after⟩, rfl, rfl⟩
    · exact Or.inr ((plain_blanks _ _).mpr ⟨blanks.2, rfl⟩)
    · exact Or.inl (derives_guarded.mpr ⟨before, words, after, rfl, rfl⟩)

theorem derives_indexed (f : CreateIndex) :
    indexed.Derives (f.index ++ f.target) [(.index, f.index.val), (.table, f.table.val), (.column, f.column.val)] := by
  have hclose : (mark ')' : Shape).Derives [')'] [] := ⟨rfl, rfl⟩
  simp only [indexed, inOrder, derives_word_seq, plain_blanks.seq_iff_exists,
    (plain_keyword "ON").seq_iff_exists, plain_gap.seq_iff_exists, derives_mark_seq]
  exact ⟨f.index, _, _, rfl, rfl, f.beforeOn, _, rfl, f.on, _, rfl, f.afterOn, _, rfl, f.table, _, _, rfl,
    rfl, f.afterTable, _, rfl, _, rfl, f.beforeColumn, _, rfl, f.column, _, _, rfl, rfl, f.afterColumn, _,
    rfl, hclose⟩

theorem exists_of_derives_indexed (opening : Opening .createIndex) (guard : Guard)
    (h : indexed.Derives text parts) :
    ∃ f : CreateIndex, f.opening = opening ∧ f.guard = guard ∧ text = f.index ++ f.target := by
  simp only [indexed, inOrder, derives_word_seq, plain_blanks.seq_iff_exists,
    (plain_keyword "ON").seq_iff_exists, plain_gap.seq_iff_exists, derives_mark_seq, derives_mark] at h
  obtain ⟨index, _, _, rfl, -, beforeOn, _, rfl, on, _, rfl, afterOn, _, rfl, table, _, _, rfl, -,
    afterTable, _, rfl, _, rfl, beforeColumn, _, rfl, column, _, _, rfl, -, afterColumn, _, rfl, rfl, -⟩ := h
  exact ⟨⟨opening, guard, index, beforeOn, on, afterOn, table, afterTable, beforeColumn, column, afterColumn⟩,
    rfl, rfl, rfl⟩

end Shape

theorem exists_createIndex_of_fits (h : validate .createIndex line = .ok command) :
    ∃ f : CreateIndex, f.text <+: normalize line := by
  obtain ⟨opening, r, htext, hbody⟩ := exists_body_of_fits h
  rw [body_createIndex] at hbody
  obtain ⟨_, _, _, _, hguard, hindexed, htaken, -⟩ := hbody
  obtain ⟨guard, rfl, -⟩ := derives_guard.mp hguard
  obtain ⟨f, rfl, rfl, rfl⟩ := exists_of_derives_indexed opening guard hindexed
  refine ⟨f, r.rest, ?_⟩
  rw [htext, htaken]
  simp [CreateIndex.text]

/-! ## Reading a form -/

/-- The name may be IF, but then ON and not NOT follows it. -/
theorem target_ne_clause (f : CreateIndex) {words : List Char}
    (hwords : Phrase ["IF", "NOT", "EXISTS"] words) (rest last : List Char) :
    f.index ++ f.target ++ rest ≠ words ++ last := by
  intro heq
  obtain ⟨first, gap, back, hfirst, hne, hgap, hback, rfl⟩ := hwords
  obtain ⟨i, e, rfl, hi, he⟩ := spells_two (by decide) (by decide) hfirst
  have hword : ∀ c ∈ [i, e], c.isAlphanum = true := by
    simp [Text.isAlphanum_of_isAlpha hi, Text.isAlphanum_of_isAlpha he]
  let space : Space := ⟨gap, hne, hgap⟩
  let behind : List Char := f.afterOn ++ (f.table ++ (f.afterTable ++ '(' :: (f.beforeColumn ++ (f.column ++
    (f.afterColumn ++ ')' :: rest)))))
  have hindex : f.index.val ++ (f.beforeOn ++ (f.on ++ behind)) = [i, e] ++ (space ++ (back ++ last)) := by
    simpa [CreateIndex.target, behind, space] using heq
  -- The word of the clause is as long as the name, and so are the blanks behind it.
  obtain ⟨-, htail⟩ := append_inj_of_runs hindex f.index.2.2 (f.beforeOn.startsApart _) hword
    (space.startsApart _)
  have hon : Phrase ["ON"] f.on.val := f.on.2
  obtain ⟨-, hsame⟩ := append_inj_of_runs htail f.beforeOn.2.2 (hon.head_visible rfl _) hgap
    (hback.head_visible rfl _)
  exact hback.append_ne_append (by decide) hon hsame.symm

theorem readings_guarded_eq_nil (f : CreateIndex) (blanks : Space) (rest : List Char) :
    (inOrder [gap, Shape.ifNotExists, Shape.blanks]).readings (blanks ++ (f.index ++ f.target ++ rest)) = [] := by
  refine readings_run_seq_eq_nil blanks.2.2 ?_ ?_
  · intro c hc
    rw [List.append_assoc, List.head?_append_of_ne_nil _ f.index.2.1] at hc
    exact Text.isBlank_of_isAlphanum (f.index.2.2 c (List.mem_of_head? hc))
  · refine List.eq_nil_iff_forall_not_mem.mpr fun r hr => ?_
    have hderives := derives_of_mem_readings _ _ r hr
    obtain ⟨words, back, _, htaken, -, -⟩ := derives_ifNotExists_seq.mp hderives
    refine target_ne_clause f words.2 rest (back ++ r.rest) ?_
    rw [← taken_append_rest _ _ r hr, htaken, List.append_assoc]

theorem read?_guard (f : CreateIndex) (rest : List Char) :
    guard.read? (f.guard.text ++ (f.index ++ f.target ++ rest)) =
      some ⟨f.guard.text, f.guard.parts, f.index ++ f.target ++ rest⟩ := by
  have hname : Lead.Before [.one .alphanumeric] (f.index ++ f.target ++ rest) := by
    intro c hc
    rw [List.append_assoc, List.head?_append_of_ne_nil _ f.index.2.1] at hc
    exact ⟨.one .alphanumeric, by simp, f.index.2.2 c (List.mem_of_head? hc)⟩
  cases f.guard with
  | plain blanks =>
    have hblanks : Shape.blanks.Derives blanks [] := (plain_blanks _ _).mpr ⟨blanks.2, rfl⟩
    exact (read?_either_right (readings_guarded_eq_nil f blanks rest)).trans
      (read?_of_settled (by decide) hblanks hname)
  | guarded before words after =>
    have hguarded := derives_guarded.mpr ⟨before, words, after, rfl, rfl⟩
    exact read?_either_left (read?_of_settled (by decide) hguarded hname)

theorem validate_of_createIndex {f : CreateIndex} (htext : normalize line = f.text ++ rest) :
    validate .createIndex line = .ok (f.command rest) := by
  have hindexed : indexed.read? (f.index ++ f.target ++ rest) =
      some ⟨f.index ++ f.target, [(.index, f.index), (.table, f.table), (.column, f.column)], rest⟩ :=
    read?_of_settled (by decide) (derives_indexed f) (Lead.before_any rest)
  have hline : normalize line = f.opening ++ (f.guard.text ++ (f.index ++ f.target ++ rest)) := by
    rw [htext]
    simp [CreateIndex.text]
  have hbody : Kind.createIndex.body.read? (f.guard.text ++ (f.index ++ f.target ++ rest)) =
      some ⟨f.guard.text ++ (f.index ++ f.target), f.parts, rest⟩ :=
    read?_seq (read?_guard f rest) hindexed
  exact validate_of_body hline hbody

theorem validate_createIndex_eq_ok_iff :
    validate .createIndex line = .ok command ↔
      ∃ (f : CreateIndex) (rest : List Char), normalize line = f.text ++ rest ∧ command = f.command rest := by
  constructor
  · intro h
    obtain ⟨f, rest, htext⟩ := exists_createIndex_of_fits h
    exact ⟨f, rest, htext.symm, Except.ok.inj (h.symm.trans (validate_of_createIndex htext.symm))⟩
  · rintro ⟨f, rest, htext, rfl⟩
    exact validate_of_createIndex htext

end SchemaShell.Command
