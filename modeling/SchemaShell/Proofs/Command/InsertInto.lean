import SchemaShell.Proofs.Command.Select

/-!
# Reading INSERT INTO

An INSERT INTO names a table and lists the values of a row. A list in parentheses is read as it is
written, here and in a SELECT, whichever way it is taken apart into words.
-/

namespace SchemaShell.Command

open Pattern Shape Written

/-! ## Written forms -/

namespace Written

structure InsertInto where
  opening : Opening .insertInto
  beforeTable : Space
  table : Name
  beforeWord : Space
  word : Keyword "VALUES"
  afterWord : Gap
  values : {text : List Char // WordList text}

namespace InsertInto

def front (f : InsertInto) : List Char :=
  f.beforeTable ++ (f.table ++ (f.beforeWord ++ (f.word ++ f.afterWord)))

def list (f : InsertInto) : List Char :=
  '(' :: (f.values ++ [')'])

def text (f : InsertInto) : List Char :=
  f.opening ++ (f.front ++ f.list)

def parts (f : InsertInto) : List (Field × List Char) :=
  [(.table, f.table), (.values, f.values)]

def command (f : InsertInto) (tail : List Char) : Command :=
  ofReading .insertInto ⟨f.text ++ tail.takeWhile Text.isBlank, f.parts, tail.dropWhile Text.isBlank⟩

end InsertInto

end Written

variable {line : String} {command : Command} {text tail : List Char}

/-! ## From the form to the command -/

theorem body_insertInto :
    Kind.insertInto.body = inOrder
      ([blanks, word .table, blanks, keyword "VALUES", gap] ++ [mark '(', items .values, mark ')'] ++ [gap]) :=
  rfl

theorem read?_insertInto (f : InsertInto) (tail : List Char) :
    (inOrder ([blanks, word .table, blanks, keyword "VALUES", gap] ++
      [mark '(', items .values, mark ')'])).read? (f.front ++ (f.list ++ tail)) =
      some ⟨f.front ++ f.list, f.parts, tail⟩ := by
  have hsettled : (inOrder [blanks, word .table, blanks, keyword "VALUES", gap]).settled [.mark '('] = true := by
    decide
  have hderives : (inOrder [blanks, word .table, blanks, keyword "VALUES", gap]).Derives f.front
      [(.table, f.table.val)] := by
    simp only [inOrder, plain_blanks.seq_iff_exists, derives_word_seq,
      (plain_keyword "VALUES").seq_iff_exists, plain_gap _ _]
    exact ⟨f.beforeTable, _, rfl, f.table, _, _, rfl, rfl, f.beforeWord, _, rfl, f.word, _, rfl,
      f.afterWord.2, rfl⟩
  have hopen : Lead.Before [.mark '('] (f.list ++ tail) := Lead.before_cons.mpr ⟨.mark '(', by simp, rfl⟩
  have hlist : (inOrder [mark '(', items .values, mark ')']).read? (f.list ++ tail) =
      some ⟨f.list, [(.values, f.values.val)], tail⟩ := by
    simpa [InsertInto.list] using read?_parenthesised f.values.2
  exact read?_inOrder_append (read?_of_settled hsettled hderives hopen) hlist

theorem validate_of_insertInto {f : InsertInto} (htext : normalize line = f.text ++ tail) :
    validate .insertInto line = .ok (f.command tail) := by
  have hbody : Kind.insertInto.body.read? (f.front ++ (f.list ++ tail)) =
      some ⟨f.front ++ f.list ++ tail.takeWhile Text.isBlank, f.parts, tail.dropWhile Text.isBlank⟩ :=
    read?_before_gap (read?_insertInto f tail)
  have hline : normalize line = f.opening ++ (f.front ++ (f.list ++ tail)) := by
    rw [htext]
    simp [InsertInto.text]
  simpa [InsertInto.command, InsertInto.text] using validate_of_body hline hbody

theorem get?_values (f : InsertInto) (tail : List Char) :
    (f.command tail).get? .values = some (String.ofList f.values) := by
  have hlookup : (f.command tail).captures.lookup .values = some (String.ofList f.values) := rfl
  obtain ⟨c, hc, -⟩ := f.values.2.exists_word
  rw [get?_eq hlookup, if_neg (List.ne_nil_of_mem hc)]

/-! ## From the command to the form -/

theorem exists_insertInto_of_fits (h : validate .insertInto line = .ok command) :
    ∃ f : InsertInto, f.text <+: normalize line := by
  obtain ⟨opening, r, htext, hfront⟩ := exists_front_of_fits body_insertInto h
  simp only [List.cons_append, List.nil_append, inOrder, plain_blanks.seq_iff_exists, derives_word_seq,
    (plain_keyword "VALUES").seq_iff_exists, plain_gap.seq_iff_exists, derives_mark_seq,
    derives_items_seq, derives_mark] at hfront
  obtain ⟨beforeTable, _, htaken, table, _, _, rfl, -, beforeWord, _, rfl, word, _, rfl, afterWord, _,
    rfl, _, rfl, values, _, _, rfl, -, rfl, -⟩ := hfront
  refine ⟨⟨opening, beforeTable, table, beforeWord, word, afterWord, values⟩, r.rest, ?_⟩
  rw [htext, htaken]
  simp [InsertInto.text, InsertInto.front, InsertInto.list]

theorem validate_insertInto_eq_ok_iff :
    validate .insertInto line = .ok command ↔
      ∃ (f : InsertInto) (tail : List Char), normalize line = f.text ++ tail ∧ command = f.command tail := by
  constructor
  · intro h
    obtain ⟨f, tail, htext⟩ := exists_insertInto_of_fits h
    exact ⟨f, tail, htext.symm, Except.ok.inj (h.symm.trans (validate_of_insertInto htext.symm))⟩
  · rintro ⟨f, tail, htext, rfl⟩
    exact validate_of_insertInto htext

/-! ## Lists -/

/-- The command has the list as it is written, and its fields are the words in it. -/
def KeepsList (command : Command) (field : Field) (list : List Char) : Prop :=
  command.get? field = some (String.ofList list) ∧
    Schema.fields (String.ofList list) = (Text.alphanumericRuns list).map String.ofList

theorem keepsList {field : Field} (hlist : WordList text)
    (hget : command.get? field = some (String.ofList text)) : command.KeepsList field text :=
  ⟨hget, by rw [Schema.fields_eq, String.toList_ofList, hlist.fields_eq]⟩

theorem validate_insertInto_of_prefix {f : InsertInto} (h : f.text <+: normalize line) :
    ∃ command, validate .insertInto line = .ok command ∧ command.KeepsList .values f.values := by
  obtain ⟨tail, htext⟩ := h
  exact ⟨_, validate_of_insertInto htext.symm, keepsList f.values.2 (get?_values f tail)⟩

theorem validate_select_of_prefix {f : Selection} {columns : {text : List Char // WordList text}}
    (htarget : f.target = .list columns) (h : f.text <+: normalize line) :
    ∃ command, validate .select line = .ok command ∧ command.KeepsList .columns columns := by
  obtain ⟨whole, tail, htext, hapart, hsame⟩ := Selection.exists_whole h
  obtain ⟨equation?, taken, rest, hfits⟩ := validate_select_eq_ok htext hapart
  refine ⟨_, hfits, keepsList columns.2 ?_⟩
  rw [get?_columns_selection, ← hsame, htarget]

theorem exists_list_of_fits (h : validate .select line = .ok command)
    (hcolumns : (command.get? .columns).isSome = true) :
    ∃ (f : Selection) (columns : {text : List Char // WordList text}),
      f.target = .list columns ∧ f.text <+: normalize line := by
  obtain ⟨first, hfirst⟩ := exists_selection_of_fits h
  obtain ⟨f, tail, htext, hapart, -⟩ := Selection.exists_whole hfirst
  obtain ⟨equation?, taken, rest, hfits⟩ := validate_select_eq_ok htext hapart
  obtain rfl := Except.ok.inj (h.symm.trans hfits)
  rw [get?_columns_selection] at hcolumns
  cases htarget : f.target with
  | list columns => exact ⟨f, columns, htarget, tail, htext.symm⟩
  | all word => simp [htarget] at hcolumns

/-- A line is an INSERT INTO, or a SELECT with a list of columns, just when it begins with a form of one.
The list between the parentheses is the same in every form at the front of the line, and it is kept as it
is written. Its fields are the longest words in it, in order. -/
theorem lists_are_read_exactly (line : String) :
    ((∃ command, validate .insertInto line = .ok command) ↔ ∃ f : InsertInto, f.text <+: normalize line) ∧
    ((∃ command, validate .select line = .ok command ∧ (command.get? .columns).isSome = true) ↔
      ∃ (f : Selection) (columns : {text : List Char // WordList text}),
        f.target = .list columns ∧ f.text <+: normalize line) ∧
    (∀ (f : InsertInto) (command : Command), f.text <+: normalize line →
      validate .insertInto line = .ok command → command.KeepsList .values f.values) ∧
    ∀ (f : Selection) (columns : {text : List Char // WordList text}) (command : Command),
      f.target = .list columns → f.text <+: normalize line → validate .select line = .ok command →
        command.KeepsList .columns columns := by
  refine ⟨⟨?_, ?_⟩, ⟨?_, ?_⟩, ?_, ?_⟩
  · rintro ⟨command, hfits⟩
    exact exists_insertInto_of_fits hfits
  · rintro ⟨f, hf⟩
    obtain ⟨command, hfits, -⟩ := validate_insertInto_of_prefix hf
    exact ⟨command, hfits⟩
  · rintro ⟨command, hfits, hcolumns⟩
    exact exists_list_of_fits hfits hcolumns
  · rintro ⟨f, columns, htarget, hf⟩
    obtain ⟨command, hfits, hkeeps⟩ := validate_select_of_prefix htarget hf
    exact ⟨command, hfits, by rw [hkeeps.1, Option.isSome_some]⟩
  · intro f command hf hfits
    obtain ⟨same, hsame, hkeeps⟩ := validate_insertInto_of_prefix hf
    obtain rfl := Except.ok.inj (hfits.symm.trans hsame)
    exact hkeeps
  · intro f columns command htarget hf hfits
    obtain ⟨same, hsame, hkeeps⟩ := validate_select_of_prefix htarget hf
    obtain rfl := Except.ok.inj (hfits.symm.trans hsame)
    exact hkeeps

theorem lists_are_read_exactly_of_three_words :
    let command : Command :=
      ⟨.insertInto, [(.table, "VALUES"), (.values, " a b,c, ")], "insert into VALUES values( a b,c, ) ", ", (d)"⟩
    validate .insertInto "insert into VALUES values( a b,c, ) , (d);" = .ok command ∧
      command.KeepsList .values " a b,c, ".toList ∧
      Text.alphanumericRuns " a b,c, ".toList = [['a'], ['b'], ['c']] := by
  intro command
  have hfits : validate .insertInto "insert into VALUES values( a b,c, ) , (d);" = .ok command := rfl
  have hblank : Blanks [' '] := List.all_eq_true.mp rfl
  let values : Items :=
    { before := ⟨[' '], hblank⟩
      first := ⟨"a b".toList, ⟨'a', rfl, rfl⟩, List.all_eq_true.mp rfl⟩
      others := [(noGap, ⟨['c'], ⟨'c', rfl, rfl⟩, List.all_eq_true.mp rfl⟩)]
      comma? := some ⟨[' '], hblank⟩ }
  let f : InsertInto :=
    { opening := ⟨"insert into".toList, ['i', 'n', 's', 'e', 'r', 't'], [' '], ['i', 'n', 't', 'o'], rfl,
        by simp, hblank, rfl, rfl⟩
      beforeTable := ⟨[' '], by simp, hblank⟩
      table := ⟨"VALUES".toList, by simp, List.all_eq_true.mp rfl⟩
      beforeWord := ⟨[' '], by simp, hblank⟩
      word := ⟨"values".toList, rfl⟩
      afterWord := noGap
      values := ⟨values.text, values.wordList⟩ }
  obtain ⟨-, -, hlists, -⟩ := lists_are_read_exactly "insert into VALUES values( a b,c, ) , (d);"
  exact ⟨hfits, hlists f command ⟨" , (d)".toList, rfl⟩ hfits, by decide +kernel⟩

end SchemaShell.Command
