import SchemaShell.Proofs.Command.Clause

/-!
# Reading CREATE TABLE

The shape of CREATE TABLE reads the written forms of the command and nothing else. Only the name of
the table can be cut in two ways, when a clause follows it without a blank: `tIF NOT EXISTS`. Nothing
that could be a body stands behind the longer name, so every form is read as it is written.
-/

namespace SchemaShell.Command

open Pattern Shape Written Lead

variable {text : List Char} {parts : List (Field × List Char)}

/-! ## The language of the shape -/

namespace Shape

def tableName : Shape := part .table (either identifier shortIdentifier)

def tableBody : Shape :=
  inOrder
    [gap, optional (seq ifNotExists gap), mark '(', gap, part .columns (oneOrMore columnRecord),
      mark ')']

end Shape

theorem shape_createTable :
    Kind.createTable.shape = seq Kind.createTable.phrase (seq blanks (seq tableName tableBody)) := rfl

theorem derives_columns {p : Shape} :
    (seq (part .columns (oneOrMore columnRecord)) p).Derives text parts ↔
      ∃ rs : List ColumnRecord, rs ≠ [] ∧ ∃ back later, text = rs.flatMap ColumnRecord.text ++ back ∧
        parts = (.columns, rs.flatMap ColumnRecord.text) :: later ∧ p.Derives back later := by
  constructor
  · rintro ⟨front, back, _, later, ⟨inner, hinner, rfl⟩, hback, rfl, rfl⟩
    obtain ⟨⟨rs, hne, rfl⟩, rfl⟩ := (plain_columnList _ _).mp hinner
    exact ⟨rs, hne, back, later, rfl, rfl, hback⟩
  · rintro ⟨rs, hne, back, later, rfl, rfl, hback⟩
    have hrs := (plain_columnList (rs.flatMap ColumnRecord.text) []).mpr ⟨⟨rs, hne, rfl⟩, rfl⟩
    have hpart : (part .columns (oneOrMore columnRecord)).Derives (rs.flatMap ColumnRecord.text)
        [(.columns, rs.flatMap ColumnRecord.text)] := ⟨[], hrs, rfl⟩
    exact hpart.seq hback

theorem derives_clause {p : Shape} :
    (seq (optional (seq Shape.ifNotExists gap)) p).Derives text parts ↔
      p.Derives text parts ∨
        ∃ clause, Phrase ["IF", "NOT", "EXISTS"] clause ∧ ∃ after : Gap, ∃ back later,
          text = clause ++ (after ++ back) ∧ parts = (.ifNotExists, clause) :: later ∧
            p.Derives back later := by
  constructor
  · rintro ⟨front, back, fronts, later, hfront | ⟨rfl, rfl⟩, hback, rfl, rfl⟩
    · obtain ⟨clause, after, _, rfl, rfl, hafter⟩ := derives_ifNotExists_seq.mp hfront
      obtain ⟨hblanks, rfl⟩ := (plain_gap _ _).mp hafter
      exact Or.inr ⟨clause, clause.2, ⟨after, hblanks⟩, back, later, by simp, rfl, hback⟩
    · exact Or.inl hback
  · rintro (hp | ⟨clause, hclause, after, back, later, rfl, rfl, hback⟩)
    · have hnone : (optional (seq Shape.ifNotExists gap)).Derives [] [] := Or.inr ⟨rfl, rfl⟩
      exact hnone.seq hp
    · have hgap := (plain_gap after []).mpr ⟨after.2, rfl⟩
      have hwords := derives_ifNotExists_seq.mpr ⟨⟨clause, hclause⟩, _, _, rfl, rfl, hgap⟩
      have hclause : (optional (seq Shape.ifNotExists gap)).Derives (clause ++ after)
        [(.ifNotExists, clause)] := Or.inl hwords
      rw [← List.append_assoc]
      exact hclause.seq hback

theorem exists_records_of_block (b : TableBody) :
    ∃ rs : List ColumnRecord, rs ≠ [] ∧ b.block = rs.flatMap ColumnRecord.text := by
  refine ⟨b.columns.dropLast ++ [(b.columns.getLast b.columns_ne_nil).widen b.beforeClosing], by simp, ?_⟩
  conv_lhs => rw [TableBody.block, ← List.dropLast_append_getLast b.columns_ne_nil]
  simp [ColumnRecord.text_widen]

theorem derives_tableBody :
    tableBody.Derives text parts ↔ ∃ b : TableBody, text = b.text ∧ parts = b.parts := by
  simp only [tableBody, inOrder, plain_gap.seq_iff, derives_clause, derives_mark_seq, derives_columns,
    derives_mark]
  constructor
  · rintro ⟨gap, hgap, _, rfl, ⟨_, rfl, opening, hopening, _, rfl, rs, hne, _, _, rfl, rfl, rfl, rfl⟩ |
      ⟨clause, hclause, after, _, _, rfl, rfl, _, rfl, opening, hopening, _, rfl, rs, hne, _, _, rfl,
        rfl, rfl, rfl⟩⟩
    · refine ⟨⟨⟨gap, hgap⟩, none, noGap, ⟨opening, hopening⟩, rs, hne, noGap⟩, ?_, ?_⟩
      · simp [TableBody.text, TableBody.clauseText, TableBody.block, noGap]
      · simp [TableBody.parts, TableBody.block, noGap]
    · refine ⟨⟨⟨gap, hgap⟩, some ⟨clause, hclause⟩, after, ⟨opening, hopening⟩, rs, hne, noGap⟩, ?_, ?_⟩
      · simp [TableBody.text, TableBody.clauseText, TableBody.block, noGap]
      · simp [TableBody.parts, TableBody.block, noGap]
  · rintro ⟨b, rfl, rfl⟩
    obtain ⟨rs, hne, hblock⟩ := exists_records_of_block b
    rw [TableBody.text, TableBody.parts, TableBody.clauseText, hblock]
    cases hclause : b.clause? with
    | none =>
      refine ⟨joinGaps b.afterName b.afterClause, (joinGaps _ _).2, _, ?_, Or.inl ⟨_, rfl, b.afterOpening,
        b.afterOpening.2, _, rfl, rs, hne, _, _, rfl, rfl, rfl, rfl⟩⟩
      simp [joinGaps]
    | some clause =>
      exact ⟨b.afterName, b.afterName.2, _, rfl, Or.inr ⟨clause, clause.2, b.afterClause, _, _, rfl, rfl,
        _, rfl, b.afterOpening, b.afterOpening.2, _, rfl, rs, hne, _, _, rfl, rfl, rfl, rfl⟩⟩

theorem derives_tableName : tableName.Derives text parts ↔ Identifier text ∧ parts = [(.table, text)] := by
  constructor
  · rintro ⟨inner, hname | hname, rfl⟩
    · obtain ⟨h, rfl⟩ := (plain_identifier _ _).mp hname
      exact ⟨h, rfl⟩
    · obtain ⟨h, rfl⟩ := (plain_shortIdentifier _ _).mp hname
      exact ⟨h, rfl⟩
  · rintro ⟨h, rfl⟩
    exact ⟨[], Or.inl ((plain_identifier _ _).mpr ⟨h, rfl⟩), rfl⟩

theorem derives_createTable :
    Kind.createTable.shape.Derives text parts ↔
      ∃ gap : Gap, ∃ f : CreateTable, text = gap ++ f.text ∧ parts = f.parts := by
  rw [shape_createTable]
  constructor
  · rintro ⟨_, _, _, _, ⟨gap, opening, _, _, hgap, hopening, rfl, rfl⟩, hback, rfl, rfl⟩
    obtain ⟨hblanks, rfl⟩ := (plain_gap _ _).mp hgap
    obtain ⟨hphrase, rfl⟩ := (plain_phrase _ _ _).mp hopening
    obtain ⟨before, ⟨hne, hbefore⟩, _, rfl, hnamed⟩ := plain_blanks.seq_iff.mp hback
    obtain ⟨name, _, _, _, htable, hbody, rfl, rfl⟩ := hnamed
    obtain ⟨hname, rfl⟩ := derives_tableName.mp htable
    obtain ⟨body, rfl, rfl⟩ := derives_tableBody.mp hbody
    refine ⟨⟨gap, hblanks⟩, ⟨opening, hphrase, ⟨before, hbefore⟩, hne, name, hname, body⟩, ?_, rfl⟩
    simp [CreateTable.text]
  · rintro ⟨gap, f, rfl, rfl⟩
    have hgap := (plain_gap gap []).mpr ⟨gap.2, rfl⟩
    have hopening := (plain_phrase ["CREATE", "TABLE"] f.opening []).mpr ⟨f.isOpening, rfl⟩
    have hname := derives_tableName.mpr ⟨f.isName, rfl⟩
    have hbody := derives_tableBody.mpr ⟨f.body, rfl, rfl⟩
    have hrest := plain_blanks.seq_iff.mpr
      ⟨f.beforeName, ⟨f.beforeName_ne_nil, f.beforeName.2⟩, _, rfl, hname.seq hbody⟩
    have hwhole := (hgap.seq hopening).seq hrest
    rw [List.append_assoc] at hwhole
    exact hwhole

/-! ## Which name is read -/

theorem spells_two {first second : Char} {text : List Char} (ha : first.isAlpha = true)
    (hb : second.isAlpha = true) (h : text.map Char.toUpper = [first, second]) :
    ∃ c d, text = [c, d] ∧ c.isAlpha = true ∧ d.isAlpha = true := by
  have halpha : ∀ c d : Char, d.isAlpha = true → c.toUpper = d → c.isAlpha = true := by
    rintro c _ hd rfl
    rcases Text.toUpper_cases c with hc | hc
    · rwa [hc] at hd
    · exact hc.1
  obtain ⟨c, rest, rfl, hc, hrest⟩ := List.map_eq_cons_iff.mp h
  obtain ⟨d, rest, rfl, hd, hnil⟩ := List.map_eq_cons_iff.mp hrest
  obtain rfl := List.map_eq_nil_iff.mp hnil
  exact ⟨c, d, rfl, halpha c first ha hc, halpha d second hb hd⟩

theorem before_body_or_clause (b : TableBody) (rest : List Char) :
    Before [.one .blank, .mark '('] (b.text ++ rest) ∨
      ∃ clause, b.clause? = some clause ∧ clause.val <+: b.text ++ rest := by
  have hblank : ∀ (gap : Gap) c rest, gap.val = c :: rest → Text.isBlank c = true :=
    fun gap c rest h => gap.2 c (by simp [h])
  unfold TableBody.text
  cases hafter : b.afterName.val with
  | cons c rest => simp [Holds, CharClass.holds, hblank _ _ _ hafter]
  | nil =>
    cases hclause : b.clause? with
    | none =>
      cases hgap : b.afterClause.val with
      | nil => simp [TableBody.clauseText, hclause, Holds]
      | cons c rest => simp [TableBody.clauseText, hclause, Holds, CharClass.holds, hblank _ _ _ hgap]
    | some clause =>
      refine Or.inr ⟨clause, rfl, ?_⟩
      simp [TableBody.clauseText, hclause]

theorem readings_tableBody_eq_nil {gap words : List Char} (hgap : Blanks gap)
    (hwords : Phrase ["NOT", "EXISTS"] words) (rest : List Char) :
    tableBody.readings (gap ++ (words ++ rest)) = [] := by
  have hderives : (Shape.phrase ["NOT", "EXISTS"]).Derives words [] := (plain_phrase _ _ _).mpr ⟨hwords, rfl⟩
  have hnot : Before [.initial 'N'] (words ++ rest) := before_ahead_of_derives hderives (before_any rest)
  exact readings_run_seq_eq_nil hgap (hwords.head_visible rfl rest)
    (readings_eq_nil (by decide) (by decide) hnot)

/-- The clause begins with two letters that could belong to the name, but no body stands behind them. -/
theorem body_cases (b : TableBody) (rest : List Char) :
    Before [.one .blank, .mark '('] (b.text ++ rest) ∨
      ∃ i f more, b.text ++ rest = i :: f :: more ∧ i.isAlpha = true ∧ f.isAlpha = true ∧
        Before [.one .blank] more ∧ tableBody.readings more = [] := by
  refine (before_body_or_clause b rest).imp_right ?_
  rintro ⟨clause, -, back, hback⟩
  obtain ⟨first, gap, tail, hfirst, hne, hgap, htail, hsplit⟩ := clause.2
  obtain ⟨i, f, rfl, hi, hf⟩ := spells_two (by decide) (by decide) hfirst
  have htext : b.text ++ rest = i :: f :: (gap ++ (tail ++ back)) := by
    rw [← hback, hsplit]
    simp
  have hblank : Before [.one .blank] (gap ++ (tail ++ back)) := by
    obtain ⟨c, gap, rfl⟩ := List.exists_cons_of_ne_nil hne
    exact before_cons.mpr ⟨.one .blank, by simp, hgap c (by simp)⟩
  exact ⟨i, f, _, htext, hi, hf, hblank, readings_tableBody_eq_nil hgap htail back⟩

theorem read?_tableBody (b : TableBody) (rest : List Char) :
    tableBody.read? (b.text ++ rest) = some ⟨b.text, b.parts, rest⟩ := by
  have hbody := derives_tableBody.mpr ⟨b, rfl, rfl⟩
  exact read?_of_settled (by decide) hbody (before_any rest)

theorem read?_tableName {name rest : List Char} (hname : Identifier name)
    (hrest : Before [.one .blank, .mark '('] rest) :
    tableName.read? (name ++ rest) = some ⟨name, [(.table, name)], rest⟩ := by
  have hd := (plain_identifier name []).mpr ⟨hname, rfl⟩
  obtain ⟨later, hread⟩ := List.head?_eq_some_iff.mp (read?_of_settled (by decide) hd hrest)
  simp [tableName, read?, readings, hread, Reading.named]

theorem readings_tableName {name more : List Char} {i f : Char} (hname : Identifier name)
    (hi : i.isAlpha = true) (hf : f.isAlpha = true) (hmore : Before [.one .blank] more) :
    tableName.readings (name ++ i :: f :: more) =
      [⟨name ++ [i, f], [(.table, name ++ [i, f])], more⟩, ⟨name, [(.table, name)], i :: f :: more⟩] := by
  cases name with
  | nil => exact hname.elim
  | cons c rest =>
    have hrun : (rest ++ i :: f :: more).takeWhile CharClass.alphanumeric.holds = rest ++ [i, f] := by
      have hall : ∀ d ∈ rest ++ [i, f], CharClass.alphanumeric.holds d = true := by
        intro d hd
        simp only [List.mem_append, List.mem_cons, List.not_mem_nil, or_false] at hd
        rcases hd with hd | rfl | rfl
        · exact hname.2 d hd
        · exact Text.isAlphanum_of_isAlpha hi
        · exact Text.isAlphanum_of_isAlpha hf
      have hstop : ∀ d ∈ more.head?, CharClass.alphanumeric.holds d = false := by
        intro d hd
        obtain ⟨l, hl, hld⟩ := hmore d hd
        obtain rfl := List.mem_singleton.mp hl
        have hblank : CharClass.blank.holds d = true := hld
        exact Bool.eq_false_iff.mpr (CharClass.not_holds_of_apart rfl hblank)
      simpa using takeWhile_append_of_head hall hstop
    have hc : CharClass.letter.holds c = true := hname.1
    have htake : (rest ++ i :: f :: more).take (rest.length + 2) = rest ++ [i, f] := by
      rw [List.take_append, List.take_of_length_le (by omega)]
      simp
    simp [tableName, readings, identifier, shortIdentifier, Reading.front, Reading.named,
      Reading.followedBy, hrun, htake, hc]

theorem read?_named_body {name : List Char} (hname : Identifier name) (b : TableBody) (rest : List Char) :
    (seq tableName tableBody).read? (name ++ (b.text ++ rest)) =
      some ⟨name ++ b.text, (.table, name) :: b.parts, rest⟩ := by
  have hbody := read?_tableBody b rest
  rcases body_cases b rest with hbefore | ⟨i, f, more, htext, hi, hf, hmore, hnil⟩
  · exact read?_seq (read?_tableName hname hbefore) hbody
  · -- The whole run of letters and digits is two letters longer, and no body follows it.
    have hnone : tableBody.read? more = none := read?_eq_none_iff.mpr hnil
    rw [htext] at hbody ⊢
    rw [read?_seq_eq, readings_tableName hname hi hf hmore]
    simp [hnone, hbody, Reading.followedBy]

theorem read?_createTable (f : CreateTable) (rest : List Char) :
    Kind.createTable.shape.read? (f.text ++ rest) = some ⟨f.text, f.parts, rest⟩ := by
  have hletter : Before [.one .letter] (f.name ++ (f.body.text ++ rest)) := by
    have hname := f.isName
    cases hn : f.name with
    | nil => simp [hn, Identifier] at hname
    | cons c more =>
      rw [hn] at hname
      exact before_cons.mpr ⟨.one .letter, by simp, hname.1⟩
  have hblanks : blanks.Derives f.beforeName [] :=
    (plain_blanks _ _).mpr ⟨⟨f.beforeName_ne_nil, f.beforeName.2⟩, rfl⟩
  have hopening : Phrase Kind.createTable.words f.opening := f.isOpening
  have hread := read?_seq (read?_phrase hopening _)
    (read?_seq (read?_of_settled (by decide) hblanks hletter) (read?_named_body f.isName f.body rest))
  rw [shape_createTable]
  simpa [CreateTable.text, CreateTable.parts, Reading.followedBy] using hread

/-- The form is written at the front of a text, and no form there has a longer name. -/
def Longest (f : CreateTable) (text : List Char) : Prop :=
  f.text <+: text ∧ ∀ g : CreateTable, g.text <+: text → g.name.length ≤ f.name.length

theorem longest_of_prefix {f : CreateTable} (h : f.text <+: text) : Longest f text := by
  refine ⟨h, fun g hg => ?_⟩
  obtain ⟨rest, rfl⟩ := h
  obtain ⟨last, hlast⟩ := hg
  have hsame := read?_createTable f rest
  rw [← hlast, read?_createTable g last] at hsame
  have hparts : g.parts = f.parts := congrArg Reading.parts (Option.some_inj.mp hsame)
  have hname : g.name = f.name := congrArg Prod.snd (List.cons.inj hparts).1
  rw [hname]

theorem exists_longest (h : ∃ f : CreateTable, f.text <+: text) : ∃ f, Longest f text :=
  h.imp fun _ => longest_of_prefix

/-- A text that the shape reads begins with a written form, unless blanks stand in front of it. -/
theorem exists_form_of_read? {r : Reading Field} (h : Kind.createTable.shape.read? text = some r)
    (hfront : ∀ c ∈ text.head?, Text.isBlank c = false) : ∃ f : CreateTable, f.text <+: text := by
  obtain ⟨hd, hsplit⟩ := derives_of_read? h
  obtain ⟨⟨gap, hgap⟩, f, htaken, -⟩ := derives_createTable.mp hd
  cases gap with
  | nil =>
    have htext : r.taken = f.text := htaken
    exact ⟨f, r.rest, by rw [← htext, hsplit]⟩
  | cons c more =>
    have hc := hfront c (by simp [← hsplit, htaken])
    simp [hgap c (by simp)] at hc

/-! ## The command that is read -/

theorem ofReading_createTable (f : CreateTable) (rest : List Char) :
    ofReading .createTable ⟨f.text, f.parts, rest⟩ = f.command rest := by
  rcases f with ⟨_, _, _, _, _, _, ⟨_, _ | _, _, _, _, _, _⟩⟩ <;> rfl

theorem validate_of_createTable {line : String} {f : CreateTable} {rest : List Char}
    (htext : normalize line = f.text ++ rest) : validate .createTable line = .ok (f.command rest) := by
  rw [validate_eq_ok_iff, htext]
  exact ⟨_, read?_createTable f rest, ofReading_createTable f rest⟩

theorem validate_createTable_eq_ok_iff {line : String} {command : Command} :
    validate .createTable line = .ok command ↔
      ∃ f : CreateTable, ∃ rest, normalize line = f.text ++ rest ∧ Longest f (normalize line) ∧
        command = f.command rest := by
  constructor
  · intro h
    obtain ⟨r, hr, -⟩ := validate_eq_ok_iff.mp h
    obtain ⟨f, rest, hrest⟩ := exists_form_of_read? hr (isBlank_head_normalize line)
    have hfits := validate_of_createTable hrest.symm
    exact ⟨f, rest, hrest.symm, longest_of_prefix ⟨rest, hrest⟩, Except.ok.inj (h.symm.trans hfits)⟩
  · rintro ⟨f, rest, htext, -, rfl⟩
    exact validate_of_createTable htext

theorem get?_table (f : CreateTable) (rest : List Char) :
    (f.command rest).get? .table = some (String.ofList f.name) := by
  have hname : f.name ≠ [] := fun he => by simpa [he, Identifier] using f.isName
  rw [get?_eq rfl, if_neg hname]

theorem get?_ifNotExists (f : CreateTable) (rest : List Char) :
    ((f.command rest).get? .ifNotExists).isSome = f.body.clause?.isSome := by
  rw [get?_eq rfl]
  cases hclause : f.body.clause? with
  | none => simp [TableBody.clauseText, hclause]
  | some clause =>
    obtain ⟨first, gap, rest, -, hgap, -, -, hsplit⟩ := clause.2
    simp [TableBody.clauseText, hclause, hsplit, hgap]

theorem get?_columns (f : CreateTable) (rest : List Char) :
    (f.command rest).get? .columns = some (String.ofList f.body.block) := by
  obtain ⟨r, rs, hrs⟩ := List.exists_cons_of_ne_nil f.body.columns_ne_nil
  have hblock : f.body.block ≠ [] := by simp [TableBody.block, hrs, ColumnRecord.text]
  rw [get?_eq rfl, if_neg hblock]

theorem text_ends_with_block (f : CreateTable) : ∃ front, f.text = front ++ (f.body.block ++ [')']) := by
  refine ⟨f.opening ++ (f.beforeName ++ (f.name ++ (f.body.afterName ++ (f.body.clauseText ++
    (f.body.afterClause ++ '(' :: f.body.afterOpening))))), ?_⟩
  simp [CreateTable.text, TableBody.text]

/-- A line is a CREATE TABLE command just when it begins with a written form of one. The name is then
the longest that leaves a form, the fields are those of the form that has it, and what is read ends
with the parenthesis behind the columns. -/
theorem createTable_reads_written_forms (line : String) :
    ((∃ command, validate .createTable line = .ok command) ↔
      ∃ f : CreateTable, f.text <+: normalize line) ∧
    (∀ command, validate .createTable line = .ok command ↔
      ∃ f : CreateTable, ∃ rest, normalize line = f.text ++ rest ∧
        (∀ g : CreateTable, g.text <+: normalize line → g.name.length ≤ f.name.length) ∧
        command = f.command rest) ∧
    ∀ (f : CreateTable) (rest : List Char),
      (f.command rest).get? .table = some (String.ofList f.name) ∧
      ((f.command rest).get? .ifNotExists).isSome = f.body.clause?.isSome ∧
      (f.command rest).get? .columns = some (String.ofList f.body.block) ∧
      (∃ front, (f.command rest).matched = String.ofList (front ++ (f.body.block ++ [')']))) ∧
      (f.command rest).remainder = String.ofList rest := by
  refine ⟨⟨?_, ?_⟩, fun command => ?_, fun f rest => ?_⟩
  · rintro ⟨command, h⟩
    obtain ⟨f, rest, -, hf, -⟩ := validate_createTable_eq_ok_iff.mp h
    exact ⟨f, hf.1⟩
  · intro h
    obtain ⟨f, hf⟩ := exists_longest h
    obtain ⟨rest, hrest⟩ := hf.1
    exact ⟨_, validate_createTable_eq_ok_iff.mpr ⟨f, rest, hrest.symm, hf, rfl⟩⟩
  · rw [validate_createTable_eq_ok_iff]
    constructor
    · rintro ⟨f, rest, htext, hf, rfl⟩
      exact ⟨f, rest, htext, hf.2, rfl⟩
    · rintro ⟨f, rest, htext, hf, rfl⟩
      exact ⟨f, rest, htext, ⟨⟨rest, htext.symm⟩, hf⟩, rfl⟩
  · obtain ⟨front, hfront⟩ := text_ends_with_block f
    have hmatched : (f.command rest).matched = String.ofList (front ++ (f.body.block ++ [')'])) := by
      rw [← hfront]
      rfl
    exact ⟨get?_table f rest, get?_ifNotExists f rest, get?_columns f rest, ⟨front, hmatched⟩, rfl⟩

end SchemaShell.Command
