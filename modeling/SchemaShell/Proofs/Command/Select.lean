import SchemaShell.Proofs.Command.ItemList

/-!
# Reading SELECT

A SELECT names its columns or takes all of them, it names a table, and it may have a WHERE clause. The
clause is read just when a whole one stands behind the name. Otherwise all that follows the blanks is
left over.
-/

namespace SchemaShell.Command

open Pattern Shape Written Lead

/-! ## Written forms -/

namespace Written

/-- What a SELECT asks for: a list of columns in parentheses, or the word ALL. -/
inductive Target where
  | list (columns : {text : List Char // WordList text})
  | all (word : Keyword "ALL")

namespace Target

def text : Target → List Char
  | list columns => '(' :: (columns ++ [')'])
  | all word => word

def columnsText : Target → List Char
  | list columns => columns
  | all _ => []

def allText : Target → List Char
  | list _ => []
  | all word => word

def part : Target → Field × List Char
  | list columns => (.columns, columns)
  | all word => (.all, word)

end Target

/-- A SELECT up to the name of its table. -/
structure Selection where
  opening : Opening .select
  afterOpening : Gap
  target : Target
  afterTarget : Gap
  fromWord : Keyword "FROM"
  beforeTable : Space
  table : Name

namespace Selection

def body (f : Selection) : List Char :=
  f.afterOpening ++ (f.target.text ++ (f.afterTarget ++ (f.fromWord ++ (f.beforeTable ++ f.table))))

def text (f : Selection) : List Char :=
  f.opening ++ f.body

def parts (f : Selection) : List (Field × List Char) :=
  [f.target.part, (.table, f.table)]

def command (f : Selection) (equation? : Option Equation) (taken rest : List Char) : Command :=
  ofReading .select ⟨taken, f.parts ++ (equation?.map (·.parts .column .value)).getD [], rest⟩

theorem captures_command (f : Selection) (equation? : Option Equation) (taken rest : List Char) :
    (f.command equation? taken rest).captures =
      [(.columns, String.ofList f.target.columnsText), (.all, String.ofList f.target.allText),
        (.table, String.ofList f.table),
        (.column, String.ofList ((equation?.map fun e => e.column.val).getD [])),
        (.value, String.ofList ((equation?.map fun e => e.value.val).getD []))] := by
  rcases f with ⟨_, _, _ | _, _, _, _, _⟩ <;> cases equation? <;> rfl

theorem exists_whole {text : List Char} {f : Selection} (h : f.text <+: text) :
    ∃ g : Selection, ∃ tail, text = g.text ++ tail ∧ StartsApart tail ∧ f.target = g.target := by
  obtain ⟨rest, rfl⟩ := h
  obtain ⟨table, tail, hsplit, hapart, -⟩ := f.table.exists_whole rest
  refine ⟨{ f with table := table }, tail, ?_, hapart, rfl⟩
  simp only [Selection.text, body, List.append_assoc, hsplit]

end Selection

end Written

variable {line : String} {command : Command} {text rest tail : List Char}
  {parts : List (Field × List Char)}

/-! ## What the shape derives -/

namespace Shape

def target : Shape :=
  either (inOrder [mark '(', items .columns, mark ')']) (part .all (keyword "ALL"))

def selection : Shape := inOrder [gap, target, gap, keyword "FROM", blanks, word .table]

theorem derives_target : target.Derives text parts ↔ ∃ t : Target, text = t.text ∧ parts = [t.part] := by
  constructor
  · rintro (hlist | ⟨_, ⟨hword, rfl⟩, rfl⟩)
    · simp only [inOrder, derives_mark_seq, derives_items_seq, derives_mark] at hlist
      obtain ⟨_, rfl, columns, _, _, rfl, rfl, rfl, rfl⟩ := hlist
      exact ⟨.list columns, rfl, rfl⟩
    · exact ⟨.all ⟨text, hword⟩, rfl, rfl⟩
  · rintro ⟨columns | word, rfl, rfl⟩
    · refine Or.inl ?_
      simp only [inOrder, derives_mark_seq, derives_items_seq, derives_mark]
      exact ⟨_, rfl, columns, _, _, rfl, rfl, rfl, rfl⟩
    · exact Or.inr ⟨[], ⟨word.2, rfl⟩, rfl⟩

theorem body_select :
    Kind.select.body = inOrder
      ([gap, target, gap, keyword "FROM", blanks, word .table] ++ [gap, optional (filter .column .value)]) :=
  rfl

end Shape

theorem exists_selection_of_fits (h : validate .select line = .ok command) :
    ∃ f : Selection, f.text <+: normalize line := by
  obtain ⟨opening, r, htext, hbody⟩ := exists_body_of_fits h
  rw [body_select] at hbody
  simp only [List.cons_append, List.nil_append, inOrder, plain_gap.seq_iff_exists] at hbody
  obtain ⟨afterOpening, _, htaken, _, _, _, _, htarget, hback, rfl, -⟩ := hbody
  obtain ⟨target, rfl, -⟩ := derives_target.mp htarget
  simp only [plain_gap.seq_iff_exists, (plain_keyword "FROM").seq_iff_exists,
    plain_blanks.seq_iff_exists, derives_word_seq] at hback
  obtain ⟨afterTarget, _, rfl, fromWord, _, rfl, beforeTable, _, rfl, table, behind, _, rfl, -, -⟩ := hback
  refine ⟨⟨opening, afterOpening, target, afterTarget, fromWord, beforeTable, table⟩, behind ++ r.rest, ?_⟩
  rw [htext, htaken]
  simp [Selection.text, Selection.body]

/-! ## Reading a form -/

theorem read?_target (t : Target) (rest : List Char) :
    target.read? (t.text ++ rest) = some ⟨t.text, [t.part], rest⟩ := by
  cases t with
  | list columns =>
    have hlist : (inOrder [mark '(', items .columns, mark ')']).read? ('(' :: (columns ++ ')' :: rest)) =
        some ⟨'(' :: (columns ++ [')']), [(.columns, columns)], rest⟩ := read?_parenthesised columns.2
    simpa [target, Target.text, Target.part] using read?_either_left hlist
  | all word =>
    have hbefore : Before [.initial 'A'] (word ++ rest) := before_keyword rfl word rest
    have hnone : (inOrder [mark '(', items .columns, mark ')']).readings (word ++ rest) = [] :=
      readings_eq_nil (by decide) (by decide) hbefore
    have hall : (part .all (keyword "ALL") : Shape).Derives word [(.all, word.val)] := ⟨[], ⟨word.2, rfl⟩, rfl⟩
    exact (read?_either_right hnone).trans (read?_of_settled (by decide) hall (before_any rest))

theorem before_target (t : Target) (rest : List Char) :
    Before [.mark '(', .initial 'A'] (t.text ++ rest) := by
  cases t with
  | list columns => simp [Target.text, Holds]
  | all word =>
    intro c hc
    have hword : Before [.initial 'A'] (word ++ rest) := before_keyword rfl word rest
    obtain ⟨lead, hlead, hholds⟩ := hword c hc
    exact ⟨lead, List.mem_cons_of_mem _ hlead, hholds⟩

theorem read?_selection (f : Selection) (hapart : StartsApart tail) :
    selection.read? (f.body ++ tail) = some ⟨f.body, f.parts, tail⟩ := by
  have hgap : ∀ back, gap.read? (f.afterOpening ++ (f.target.text ++ back)) =
      some ⟨f.afterOpening, [], f.target.text ++ back⟩ := by
    intro back
    have hblanks := (plain_gap f.afterOpening []).mpr ⟨f.afterOpening.2, rfl⟩
    exact read?_of_settled (by decide) hblanks (before_target f.target back)
  have hends : (inOrder [gap, keyword "FROM", blanks, word .table]).EndsInWord := fun _ => rfl
  have hderives : (inOrder [gap, keyword "FROM", blanks, word .table]).Derives
      (f.afterTarget ++ (f.fromWord ++ (f.beforeTable ++ f.table))) [(.table, f.table.val)] := by
    simp only [inOrder, plain_gap.seq_iff_exists, (plain_keyword "FROM").seq_iff_exists,
      plain_blanks.seq_iff_exists, derives_word]
    exact ⟨f.afterTarget, _, rfl, f.fromWord, _, rfl, f.beforeTable, _, rfl, f.table.2, rfl⟩
  have hback := read?_of_endsInWord hends hderives hapart
  simp only [List.append_assoc] at hback
  have hread := read?_seq (hgap _) (read?_seq (read?_target f.target _) hback)
  simpa [selection, inOrder, Selection.body, Selection.parts, Reading.followedBy] using hread

theorem read?_filter (w : Filter) (hapart : StartsApart rest) :
    (filter .column .value).read? (w.text ++ rest) =
      some ⟨w.text, w.equation.parts .column .value, rest⟩ := by
  have hends : (filter .column .value).EndsInWord := fun _ => rfl
  exact read?_of_endsInWord hends (derives_filter.mpr ⟨w, rfl, rfl⟩) hapart

theorem readings_filter_eq_nil (hnone : ¬ ∃ w : Filter, w.text <+: text) :
    (filter .column .value).readings text = [] := by
  refine List.eq_nil_iff_forall_not_mem.mpr fun r hr => hnone ?_
  obtain ⟨w, htaken, -⟩ := derives_filter.mp (derives_of_mem_readings _ _ r hr)
  exact ⟨w, r.rest, by rw [← htaken, taken_append_rest _ _ r hr]⟩

section

variable {f : Selection} (htext : normalize line = f.text ++ tail) (hapart : StartsApart tail)

include htext hapart

theorem validate_selection {r : Reading Field}
    (hread : (optional (filter .column .value)).read? (tail.dropWhile Text.isBlank) = some r) :
    validate .select line =
      .ok (ofReading .select
        ⟨f.text ++ (tail.takeWhile Text.isBlank ++ r.taken), f.parts ++ r.parts, r.rest⟩) := by
  have hback : (inOrder [gap, optional (filter .column .value)]).read? tail =
      some ⟨tail.takeWhile Text.isBlank ++ r.taken, r.parts, r.rest⟩ := read?_seq (read?_gap tail) hread
  have hbody : Kind.select.body.read? (f.body ++ tail) =
      some (Reading.followedBy ⟨f.body, f.parts, tail⟩ ⟨_, _, _⟩) :=
    read?_inOrder_append (read?_selection f hapart) hback
  have hvalidate := validate_of_body (htext.trans (List.append_assoc _ _ _)) hbody
  simpa [Selection.text, Reading.followedBy] using hvalidate

theorem validate_filtered {w : Filter} (hrest : tail.dropWhile Text.isBlank = w.text ++ rest)
    (hbehind : StartsApart rest) :
    validate .select line =
      .ok (f.command (some w.equation) (f.text ++ (tail.takeWhile Text.isBlank ++ w.text)) rest) := by
  have hread : (optional (filter .column .value)).read? (tail.dropWhile Text.isBlank) =
      some ⟨w.text, w.equation.parts .column .value, rest⟩ := by
    rw [hrest]
    exact read?_either_left (read?_filter w hbehind)
  exact validate_selection htext hapart hread

theorem validate_unfiltered (hnone : ¬ ∃ w : Filter, w.text <+: tail.dropWhile Text.isBlank) :
    validate .select line =
      .ok (f.command none (f.text ++ tail.takeWhile Text.isBlank) (tail.dropWhile Text.isBlank)) := by
  have hread : (optional (filter .column .value)).read? (tail.dropWhile Text.isBlank) =
      some (.empty (tail.dropWhile Text.isBlank)) := read?_either_right (readings_filter_eq_nil hnone)
  simpa [Reading.empty, Selection.command] using validate_selection htext hapart hread

end

/-! ## The fields of a SELECT -/

theorem get?_of_equation {equation? : Option Equation} {field : Field} {word : Equation → Name}
    (hlookup : command.captures.lookup field =
      some (String.ofList ((equation?.map fun e => (word e).val).getD []))) :
    command.get? field = equation?.map fun e => String.ofList (word e) := by
  rw [get?_eq hlookup]
  cases equation? with
  | none => rfl
  | some e => exact if_neg (word e).2.1

section

variable (f : Selection) (equation? : Option Equation) (taken : List Char)

theorem get?_table_selection :
    (f.command equation? taken rest).get? .table = some (String.ofList f.table) := by
  have hlookup : (f.command equation? taken rest).captures.lookup .table = some (String.ofList f.table) := by
    rw [Selection.captures_command]
    rfl
  rw [get?_eq hlookup, if_neg f.table.2.1]

theorem get?_column_selection :
    (f.command equation? taken rest).get? .column = equation?.map fun e => String.ofList e.column := by
  refine get?_of_equation ?_
  rw [Selection.captures_command]
  rfl

theorem get?_value_selection :
    (f.command equation? taken rest).get? .value = equation?.map fun e => String.ofList e.value := by
  refine get?_of_equation ?_
  rw [Selection.captures_command]
  rfl

theorem get?_columns_selection :
    (f.command equation? taken rest).get? .columns =
      match f.target with
      | .list columns => some (String.ofList columns)
      | .all _ => none := by
  have hlookup : (f.command equation? taken rest).captures.lookup .columns =
      some (String.ofList f.target.columnsText) := by
    rw [Selection.captures_command]
    rfl
  rw [get?_eq hlookup]
  cases f.target with
  | list columns =>
    obtain ⟨c, hc, -⟩ := columns.2.exists_word
    exact if_neg (List.ne_nil_of_mem hc)
  | all word => rfl

theorem get?_all_selection :
    (f.command equation? taken rest).get? .all =
      match f.target with
      | .list _ => none
      | .all word => some (String.ofList word) := by
  have hlookup : (f.command equation? taken rest).captures.lookup .all =
      some (String.ofList f.target.allText) := by
    rw [Selection.captures_command]
    rfl
  rw [get?_eq hlookup]
  cases f.target with
  | list columns => rfl
  | all word =>
    have hne : word.val ≠ [] := by
      intro hnil
      have hspells : Spells "ALL" word := word.2
      rw [hnil] at hspells
      cases hspells
    exact if_neg hne

theorem one_target :
    ((f.command equation? taken rest).get? .columns).isSome = true ↔
      ((f.command equation? taken rest).get? .all).isSome = false := by
  rw [get?_columns_selection, get?_all_selection]
  cases f.target <;> simp

end

theorem validate_select_eq_ok {f : Selection} (htext : normalize line = f.text ++ tail)
    (hapart : StartsApart tail) :
    ∃ equation? taken rest, validate .select line = .ok (f.command equation? taken rest) := by
  by_cases hfilter : ∃ w : Filter, w.text <+: tail.dropWhile Text.isBlank
  · obtain ⟨w, more, hmore⟩ := hfilter
    obtain ⟨whole, rest, hsplit, hbehind, -⟩ := w.exists_whole more
    exact ⟨_, _, _, validate_filtered htext hapart (hmore.symm.trans hsplit) hbehind⟩
  · exact ⟨_, _, _, validate_unfiltered htext hapart hfilter⟩

/-- A SELECT has a column list or the word ALL, and never both. The table is the whole word behind FROM.
The column and the value of a WHERE clause are read together, and just when a whole clause stands behind
the name and its blanks: then the column is the word that is written and the value goes on to the end
of its word. Otherwise the reading ends behind the blanks, and all the rest is left over. -/
theorem select_parts_are_consistent (h : validate .select line = .ok command) :
    ((command.get? .columns).isSome = true ↔ (command.get? .all).isSome = false) ∧
    (∃ (f : Selection) (tail : List Char), normalize line = f.text ++ tail ∧ StartsApart tail) ∧
    ∀ (f : Selection) (tail : List Char), normalize line = f.text ++ tail → StartsApart tail →
      command.get? .table = some (String.ofList f.table) ∧
      ((command.get? .column).isSome = true ↔ (command.get? .value).isSome = true) ∧
      ((command.get? .column).isSome = true ↔ ∃ w : Filter, w.text <+: tail.dropWhile Text.isBlank) ∧
      (∀ w : Filter, w.text <+: tail.dropWhile Text.isBlank →
        ∃ (whole : Filter) (rest : List Char), tail.dropWhile Text.isBlank = whole.text ++ rest ∧
          StartsApart rest ∧ w.equation.CutOf whole.equation ∧
          command.get? .column = some (String.ofList whole.equation.column) ∧
          command.get? .value = some (String.ofList whole.equation.value) ∧
          command.remainder = String.ofList rest) ∧
      (command.get? .column = none →
        command.matched = String.ofList (f.text ++ tail.takeWhile Text.isBlank) ∧
        command.remainder = String.ofList (tail.dropWhile Text.isBlank)) := by
  obtain ⟨first, hfirst⟩ := exists_selection_of_fits h
  obtain ⟨form, back, hform, hback, -⟩ := Selection.exists_whole hfirst
  refine ⟨?_, ⟨form, back, hform, hback⟩, ?_⟩
  · obtain ⟨equation?, taken, rest, hfits⟩ := validate_select_eq_ok hform hback
    obtain rfl := Except.ok.inj (hfits.symm.trans h)
    exact one_target form equation? taken
  intro f tail htext hapart
  by_cases hfilter : ∃ w : Filter, w.text <+: tail.dropWhile Text.isBlank
  · have hread : ∀ w : Filter, w.text <+: tail.dropWhile Text.isBlank →
        ∃ (whole : Filter) (rest : List Char), tail.dropWhile Text.isBlank = whole.text ++ rest ∧
          StartsApart rest ∧ w.equation.CutOf whole.equation ∧
          command = f.command (some whole.equation)
            (f.text ++ (tail.takeWhile Text.isBlank ++ whole.text)) rest := by
      rintro w ⟨more, hmore⟩
      obtain ⟨whole, rest, hsplit, hbehind, hcut⟩ := w.exists_whole more
      have hrest := hmore.symm.trans hsplit
      have hfits := validate_filtered htext hapart hrest hbehind
      exact ⟨whole, rest, hrest, hbehind, hcut, Except.ok.inj (h.symm.trans hfits)⟩
    obtain ⟨w, hw⟩ := hfilter
    obtain ⟨whole, rest, -, -, -, rfl⟩ := hread w hw
    refine ⟨get?_table_selection _ _ _, ?_, ?_, ?_, ?_⟩
    · simp [get?_column_selection, get?_value_selection]
    · simpa [get?_column_selection] using ⟨w, hw⟩
    · intro v hv
      obtain ⟨whole, rest, hrest, hbehind, hcut, hcommand⟩ := hread v hv
      refine ⟨whole, rest, hrest, hbehind, hcut, ?_, ?_, ?_⟩
      · rw [hcommand, get?_column_selection, Option.map_some]
      · rw [hcommand, get?_value_selection, Option.map_some]
      · rw [hcommand]
        rfl
    · simp [get?_column_selection]
  · obtain rfl := Except.ok.inj (h.symm.trans (validate_unfiltered htext hapart hfilter))
    refine ⟨get?_table_selection _ _ _, ?_, ?_, ?_, ?_⟩
    · simp [get?_column_selection, get?_value_selection]
    · simpa [get?_column_selection] using hfilter
    · intro w hw
      exact absurd ⟨w, hw⟩ hfilter
    · intro _
      exact ⟨rfl, rfl⟩

theorem select_parts_are_consistent_of_keywords :
    let command : Command :=
      ⟨.select, [(.columns, ""), (.all, "all"), (.table, "WHERE"), (.column, "FROM"), (.value, "x1")],
        "select all from WHERE\twhere FROM= x1", ", y"⟩
    validate .select "select all from WHERE\twhere FROM= x1, y;" = .ok command ∧
      ((command.get? .columns).isSome = true ↔ (command.get? .all).isSome = false) ∧
      command.get? .table = some "WHERE" ∧
      ∃ (whole : Filter) (rest : List Char),
        "where FROM= x1, y".toList = whole.text ++ rest ∧ StartsApart rest ∧
        command.get? .column = some (String.ofList whole.equation.column) ∧
        command.get? .value = some (String.ofList whole.equation.value) ∧
        command.remainder = String.ofList rest := by
  intro command
  have hfits : validate .select "select all from WHERE\twhere FROM= x1, y;" = .ok command := rfl
  have hspace : [' '] ≠ [] ∧ Blanks [' '] := ⟨by simp, List.all_eq_true.mp rfl⟩
  let f : Selection :=
    { opening := ⟨"select".toList, rfl⟩
      afterOpening := ⟨[' '], hspace.2⟩
      target := .all ⟨"all".toList, rfl⟩
      afterTarget := ⟨[' '], hspace.2⟩
      fromWord := ⟨"from".toList, rfl⟩
      beforeTable := ⟨[' '], hspace⟩
      table := ⟨"WHERE".toList, by simp, List.all_eq_true.mp rfl⟩ }
  let w : Filter :=
    { word := ⟨"where".toList, rfl⟩
      afterWord := ⟨[' '], hspace⟩
      equation :=
        { column := ⟨"FROM".toList, by simp, List.all_eq_true.mp rfl⟩
          beforeMark := noGap
          afterMark := ⟨[' '], hspace.2⟩
          value := ⟨['x'], by simp, List.all_eq_true.mp rfl⟩ } }
  obtain ⟨hone, -, hforms⟩ := select_parts_are_consistent hfits
  obtain ⟨htable, -, -, hfilter, -⟩ := hforms f "\twhere FROM= x1, y".toList rfl (by simp [StartsApart])
  obtain ⟨whole, rest, hsplit, hapart, -, hcolumn, hvalue, hrest⟩ := hfilter w ⟨"1, y".toList, rfl⟩
  exact ⟨hfits, hone, htable, whole, rest, hsplit, hapart, hcolumn, hvalue, hrest⟩

end SchemaShell.Command
