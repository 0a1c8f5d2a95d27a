import SchemaShell.Proofs.Command.Captures
import SchemaShell.Proofs.Command.Expression
import SchemaShell.Proofs.Regex.Greedy

/-!
# First matches

The first match of an expression for a command is the reading of its shape, with the same groups. The
shapes say where a run ends and which way a choice goes. The expressions leave that to the search, which
gives back characters until the rest can be read.
-/

namespace SchemaShell.Command

open Pattern Shape Regex Written

variable {kind : Kind} {text : List Char} {parts : List (Field × List Char)} {p q : Shape}
  {next : List Char → Bool} {ahead : Ahead}

/-! ## Pieces of an expression -/

theorem admits_any (next : List Char → Bool) : Ahead.Admits (some [.any]) next :=
  fun text _ => Lead.before_any text

/-- What goes on into a pattern that takes something. -/
theorem admits_leads (hp : p.mayVanish = false) : Ahead.Admits (some p.leads) (p.reaches next) := by
  have h : (p.aheadOf (some [.any])).Admits (p.reaches next) :=
    admits_reaches (fun hvanish => by simp [hp] at hvanish) (admits_any next)
  simpa [aheadOf, hp] using h

/-- Where a pattern begins with a mark, it goes on from texts that begin with the mark. -/
theorem exists_cons_of_reaches {c : Char} (hp : p.mayVanish = false) (hleads : p.leads = [.mark c])
    (h : p.reaches next text = true) : ∃ more, text = c :: more := by
  have hbefore := admits_leads hp text h
  rw [hleads] at hbefore
  cases text with
  | nil =>
    obtain ⟨r, hr, -⟩ := List.any_eq_true.mp h
    have hderives := derives_of_mem_readings p [] r hr
    have hsplit := taken_append_rest p [] r hr
    rw [(List.append_eq_nil_iff.mp hsplit).1] at hderives
    simp [mayVanish_of_derives hderives] at hp
  | cons d text =>
    obtain ⟨lead, hlead, hd⟩ := Lead.before_cons.mp hbefore
    obtain rfl := List.mem_singleton.mp hlead
    obtain rfl : d = c := hd
    exact ⟨text, rfl⟩

theorem agrees_spell (shapes : List Shape) (hspelled : (inOrder shapes).isSpelled = true)
    (hfirm : (inOrder shapes).firm ahead = true) (h : ahead.Admits next) :
    (kind.spell shapes).readings.Agrees kind.number (inOrder shapes) next :=
  agrees_regex hspelled hfirm h

/-- Expressions in a row, each for some of the patterns in a row. -/
theorem agrees_append {f g : Matcher} (shapes others : List Shape)
    (hf : f.Agrees kind.number (inOrder shapes) ((inOrder others).reaches next))
    (hg : g.Agrees kind.number (inOrder others) next) :
    (f.andThen g).Agrees kind.number (inOrder (shapes ++ others)) next :=
  (hf.andThen hg).congr fun text => (readings_inOrder_append shapes others text).symm

/-! ## Lists -/

theorem finds_insertInto : Kind.insertInto.shapeRegex.Finds Kind.insertInto.number Kind.insertInto.shape := by
  have hclose : (Kind.insertInto.spell [mark ')', gap]).readings.Agrees Kind.insertInto.number
      (inOrder [mark ')', gap]) anything := agrees_spell _ (by decide) (by decide) admits_anything
  have hlist : (Kind.insertInto.rounds .values wordRound).readings.Agrees Kind.insertInto.number
      (items .values) ((inOrder [mark ')', gap]).reaches anything) :=
    agrees_items .values fun rest => exists_cons_of_reaches rfl rfl
  have htail := agrees_append [items .values] _ hlist hclose
  have hfront : (Kind.insertInto.spell [Kind.insertInto.phrase, blanks, word .table, blanks, keyword "VALUES",
      gap, mark '(']).readings.Agrees Kind.insertInto.number _
      ((inOrder ([items .values] ++ [mark ')', gap])).reaches anything) :=
    agrees_spell _ (by decide) (by decide) (admits_any _)
  refine finds_of_agrees [_, _, _] ?_
  rw [chain_cons, chain_cons, chain_singleton]
  exact agrees_append _ _ hfront htail

/-- The columns in parentheses, or the word ALL. -/
theorem agrees_target (next : List Char → Bool) :
    (Regex.orElse
      (sequence [Kind.select.spell [mark '('], Kind.select.rounds .columns wordRound, Kind.select.spell [mark ')']])
      (Kind.select.spell [part .all (keyword "ALL")])).readings.Agrees Kind.select.number target next := by
  have hopen : ∀ next, (Kind.select.spell [mark '(']).readings.Agrees Kind.select.number (mark '(') next :=
    fun next => agrees_spell [mark '('] (by decide) (by decide) (admits_any next)
  have hclose : (Kind.select.spell [mark ')']).readings.Agrees Kind.select.number (mark ')') next :=
    agrees_spell [mark ')'] (by decide) (by decide) (admits_any next)
  have hitems : (Kind.select.rounds .columns wordRound).readings.Agrees Kind.select.number
      (items .columns) ((mark ')').reaches next) :=
    agrees_items .columns fun rest => exists_cons_of_reaches rfl rfl
  have hlist : (sequence [Kind.select.spell [mark '('], Kind.select.rounds .columns wordRound,
      Kind.select.spell [mark ')']]).readings.Agrees Kind.select.number
      (inOrder [mark '(', items .columns, mark ')']) next := by
    rw [readings_sequence, chain_cons, chain_cons, chain_singleton]
    exact (hopen _).andThen (hitems.andThen hclose)
  have hall : (Kind.select.spell [part .all (keyword "ALL")]).readings.Agrees Kind.select.number
      (part .all (keyword "ALL")) next :=
    agrees_spell [part .all (keyword "ALL")] (by decide) (by decide) (admits_any next)
  exact hlist.orElse hall

theorem finds_select : Kind.select.shapeRegex.Finds Kind.select.number Kind.select.shape := by
  let rest : List Shape := [gap, keyword "FROM", blanks, word .table, gap, optional (filter .column .value)]
  have hrest : (Kind.select.spell rest).readings.Agrees Kind.select.number (inOrder rest) anything :=
    agrees_spell _ (by decide) (by decide) admits_anything
  have htail := agrees_append [target] _ (agrees_target _) hrest
  have hfront : (Kind.select.spell [Kind.select.phrase, gap]).readings.Agrees Kind.select.number
      (inOrder [Kind.select.phrase, gap]) ((inOrder ([target] ++ rest)).reaches anything) :=
    agrees_spell _ (by decide) (by decide) (admits_leads (by decide))
  refine finds_of_agrees [_, _, _] ?_
  rw [chain_cons, chain_cons, chain_singleton]
  exact agrees_append _ _ hfront htail

/-! ## CREATE INDEX -/

theorem derives_looseGuard :
    looseGuard.Derives text parts ↔ ∃ g : Guard, text = g.text ∧ parts = g.parts := by
  simp only [looseGuard, inOrder, plain_gap.seq_iff_exists, derives_optional_seq, derives_ifNotExists_seq,
    plain_blanks _ _]
  constructor
  · rintro ⟨before, _, rfl, ⟨words, after, _, rfl, rfl, hafter, rfl⟩ | ⟨⟨hne, hblanks⟩, rfl⟩⟩
    · exact ⟨.guarded before words ⟨after, hafter⟩, rfl, rfl⟩
    · let whole := joinGaps before ⟨_, hblanks⟩
      exact ⟨.plain ⟨whole, List.append_ne_nil_of_right_ne_nil _ hne, whole.2⟩, rfl, rfl⟩
  · rintro ⟨blanks | ⟨before, words, after⟩, rfl, rfl⟩
    · exact ⟨noGap, blanks, rfl, Or.inr ⟨blanks.2, rfl⟩⟩
    · exact ⟨before, _, rfl, Or.inl ⟨words, after, _, rfl, rfl, after.2, rfl⟩⟩

/-- The blanks and the clause are read alike where a name and ON come behind them. -/
theorem agrees_looseGuard :
    (looseGuard.regex Kind.createIndex.number).readings.Agrees Kind.createIndex.number guard
      (indexed.reaches anything) := by
  have hspans : (looseGuard.regex Kind.createIndex.number).readings.Spans
      (guard.language Kind.createIndex.number) :=
    spans_of_derives_iff (by decide) fun _ _ => derives_looseGuard.trans derives_guard.symm
  refine hspans.agrees_of_read? fun text parts rest hguard hrest => ?_
  obtain ⟨g, rfl, rfl⟩ := derives_guard.mp hguard
  obtain ⟨r, hr, -⟩ := List.any_eq_true.mp hrest
  have hopening : Phrase Kind.createIndex.words "CREATE INDEX".toList :=
    ⟨"CREATE".toList, [' '], "INDEX".toList, rfl, by simp, List.all_eq_true.mp rfl, rfl, rfl⟩
  obtain ⟨f, -, rfl, htaken⟩ :=
    exists_of_derives_indexed ⟨_, hopening⟩ g (derives_of_mem_readings _ _ r hr)
  rw [← taken_append_rest _ _ r hr, htaken]
  exact read?_guard f r.rest

theorem finds_createIndex : Kind.createIndex.shapeRegex.Finds Kind.createIndex.number Kind.createIndex.shape := by
  have hindexed : (indexed.regex Kind.createIndex.number).readings.Agrees Kind.createIndex.number indexed
      anything := agrees_regex (by decide) (by decide) admits_anything
  have hphrase : (Kind.createIndex.spell [Kind.createIndex.phrase]).readings.Agrees Kind.createIndex.number
      Kind.createIndex.phrase ((seq guard indexed).reaches anything) :=
    agrees_spell [Kind.createIndex.phrase] (by decide) (by decide) (admits_any _)
  refine finds_of_agrees [_, _, _] ?_
  rw [chain_cons, chain_cons, chain_singleton]
  exact hphrase.andThen (agrees_looseGuard.andThen hindexed)

/-! ## CREATE TABLE -/

theorem agrees_tableName :
    (Kind.createTable.spell [part .table identifier]).readings.Agrees Kind.createTable.number Shape.tableName
      (tableBody.reaches anything) := by
  have hspans : (Kind.createTable.spell [part .table identifier]).readings.Spans
      (Shape.tableName.language Kind.createTable.number) := by
    refine spans_of_derives_iff (p := part .table identifier) (by decide) fun text parts => ?_
    rw [derives_tableName]
    constructor
    · rintro ⟨_, hname, rfl⟩
      obtain ⟨h, rfl⟩ := (plain_identifier _ _).mp hname
      exact ⟨h, rfl⟩
    · rintro ⟨h, rfl⟩
      exact ⟨[], (plain_identifier _ _).mpr ⟨h, rfl⟩, rfl⟩
  refine hspans.agrees fun text parts rest hderives hrest => ?_
  obtain ⟨hname, rfl⟩ := derives_tableName.mp hderives
  obtain ⟨r, hr, -⟩ := List.any_eq_true.mp hrest
  obtain ⟨b, htaken, -⟩ := derives_tableBody.mp (derives_of_mem_readings _ _ r hr)
  have hsplit : b.text ++ r.rest = rest := by rw [← htaken, taken_append_rest _ _ r hr]
  have hcases := body_cases b r.rest
  rw [hsplit] at hcases
  rcases hcases with hbefore | ⟨i, f, more, rfl, hi, hf, hmore, hnil⟩
  · exact Matcher.find?_of_read? (read?_tableName hname hbefore) hrest
  · -- The longer name is tried first, and no body stands behind it.
    have hlong : tableBody.reaches anything more = false := by simp [reaches, hnil]
    simp [readings_tableName hname hi hf hmore, hlong, hrest]

def clause : Shape := inOrder [gap, optional (seq Shape.ifNotExists gap), mark '(', gap]

theorem derives_looseClause : looseClause.Derives text parts ↔ clause.Derives text parts := by
  simp only [looseClause, clause, inOrder, plain_gap.seq_iff_exists, derives_optional_seq,
    derives_seq_assoc, derives_ifNotExists_seq]
  constructor
  · rintro ⟨before, _, rfl, hclause | ⟨after, _, rfl, hopen⟩⟩
    · exact ⟨before, _, rfl, Or.inl hclause⟩
    · exact ⟨joinGaps before after, _, by simp [joinGaps], Or.inr hopen⟩
  · rintro ⟨before, _, rfl, hclause | hopen⟩
    · exact ⟨before, _, rfl, Or.inl hclause⟩
    · exact ⟨before, _, rfl, Or.inr ⟨noGap, _, rfl, hopen⟩⟩

theorem derives_looseRecord : looseRecord.Derives text parts ↔ columnRecord.Derives text parts := by
  have hcomma : ∀ text parts, (inOrder [gap, optional (mark ','), gap] : Shape).Derives text parts ↔
      (inOrder [gap, optional (seq (mark ',') gap)]).Derives text parts := by
    intro text parts
    rw [plain_looseComma]
    simp only [inOrder, plain_gap.seq_iff_exists, plain_comma _ _]
    constructor
    · rintro ⟨⟨after, comma?, rfl⟩, rfl⟩
      exact ⟨after, _, rfl, ⟨comma?, rfl⟩, rfl⟩
    · rintro ⟨after, _, rfl, ⟨comma?, rfl⟩, rfl⟩
      exact ⟨⟨after, comma?, rfl⟩, rfl⟩
  have hloose : looseRecord = inOrder
    ([mark '(', gap, identifier, spaced ',', run .letter 1, spaced ',', run .digit 1, spaced ',',
      run .alphanumeric 1, gap, mark ')'] ++ [gap, optional (mark ','), gap]) := rfl
  have hrecord : columnRecord = inOrder
    ([mark '(', gap, identifier, spaced ',', run .letter 1, spaced ',', run .digit 1, spaced ',',
      run .alphanumeric 1, gap, mark ')'] ++ [gap, optional (seq (mark ',') gap)]) := rfl
  rw [hloose, hrecord, derives_inOrder_append, derives_inOrder_append]
  exact derives_seq_congr hcomma

theorem takesAll_looseRecord (number : Field → Nat) :
    (looseRecord.regex number).readings.TakesAll .blank :=
  takesAll_inOrder .blank
    [mark '(', gap, identifier, spaced ',', run .letter 1, spaced ',', run .digit 1, spaced ',',
      run .alphanumeric 1, gap, mark ')', gap, optional (mark ',')]

theorem readings_looseRecord_eq_nil (number : Field → Nat) (before : Option Char) {c : Char} (text : List Char)
    (hc : CharClass.blank.holds c = true) : (looseRecord.regex number).readings before (c :: text) = [] := by
  refine List.eq_nil_iff_forall_not_mem.mpr fun r hr => ?_
  obtain ⟨hsplit, parts, hderives, -⟩ := (spans_regex (by decide) before (c :: text) r).mp hr
  obtain ⟨back, htaken, -⟩ := derives_mark_seq.mp hderives
  rw [htaken] at hsplit
  obtain ⟨rfl, -⟩ := List.cons.inj hsplit
  cases hc

/-- The blanks behind the last record may go to the records or to the closing parenthesis. -/
theorem agrees_columns :
    ((Kind.createTable.rounds .columns looseRecord).readings.andThen
      (Kind.createTable.spell [gap, mark ')']).readings).Agrees Kind.createTable.number
      (inOrder [part .columns (oneOrMore columnRecord), mark ')']) anything := by
  have hspelled : looseRecord.isSpelled = true := by decide
  have hspans : (Kind.createTable.rounds .columns looseRecord).readings.Spans
      ((part .columns (oneOrMore columnRecord)).language Kind.createTable.number) := by
    have hrecord : looseRecord.Derives = columnRecord.Derives :=
      funext₂ fun _ _ => propext derives_looseRecord
    refine spans_part_oneOrMore hspelled rfl fun text parts => ?_
    simp only [oneOrMore, Derives, hrecord]
  have hcolumns : (Kind.createTable.rounds .columns looseRecord).readings.Agrees Kind.createTable.number
      (part .columns (oneOrMore columnRecord)) ((mark ')' : Shape).reaches anything) :=
    hspans.agrees_of_read? fun text parts rest hderives hrest =>
      read?_of_settled (by decide) hderives (admits_leads rfl rest hrest)
  have hclose : (Kind.createTable.spell [gap, mark ')']).readings.Agrees Kind.createTable.number
      (inOrder [gap, mark ')']) anything := agrees_spell _ (by decide) (by decide) admits_anything
  have htakes : (Kind.createTable.rounds .columns looseRecord).readings.TakesAll .blank :=
    (takesAll_oneOrMore (spans_regex hspelled) (not_language_nil rfl) (takesAll_looseRecord _)
      fun before c text hc => readings_looseRecord_eq_nil _ before text hc).captured _
  refine htakes.agrees_andThen_run hcolumns hclose fun rest hrest => ?_
  obtain ⟨more, rfl⟩ := exists_cons_of_reaches rfl rfl hrest
  rfl

theorem finds_createTable : Kind.createTable.shapeRegex.Finds Kind.createTable.number Kind.createTable.shape := by
  have hclause : (looseClause.regex Kind.createTable.number).readings.Agrees Kind.createTable.number clause
      ((inOrder [part .columns (oneOrMore columnRecord), mark ')']).reaches anything) := by
    have hspans : (looseClause.regex Kind.createTable.number).readings.Spans
        (clause.language Kind.createTable.number) :=
      spans_of_derives_iff (by decide) fun _ _ => derives_looseClause
    exact hspans.agrees_of_read? fun text parts rest hderives hrest =>
      read?_of_settled (by decide) hderives (admits_leads rfl rest hrest)
  have hbody := agrees_append _ _ hclause agrees_columns
  have hfront : (Kind.createTable.spell [Kind.createTable.phrase, blanks]).readings.Agrees
      Kind.createTable.number (inOrder [Kind.createTable.phrase, blanks])
      ((seq Shape.tableName tableBody).reaches anything) :=
    agrees_spell _ (by decide) (by decide) (admits_leads (by decide))
  refine finds_of_agrees [_, _, _, _, _] ?_
  rw [chain_cons, chain_cons, chain_cons, chain_cons, chain_singleton]
  exact agrees_append _ [Shape.tableName, tableBody] hfront (agrees_tableName.andThen hbody)

/-! ## All commands -/

theorem finds_openingRegex (kind : Kind) : kind.openingRegex.Finds kind.number kind.opening := by
  have hopening : (kind.opening.regex kind.number).readings.Agrees kind.number kind.opening anything :=
    agrees_regex (by cases kind <;> decide) (by cases kind <;> decide) admits_anything
  refine finds_of_agrees [_] ?_
  rwa [chain_singleton]

theorem finds_shapeRegex (kind : Kind) : kind.shapeRegex.Finds kind.number kind.shape := by
  have hwhole : kind.shape.isSpelled = true → kind.shape.firm none = true →
      (sequence [.condition .textStart, kind.shape.regex kind.number]).Finds kind.number kind.shape := by
    intro hspelled hfirm
    refine finds_of_agrees [_] ?_
    rw [chain_singleton]
    exact agrees_regex hspelled hfirm admits_anything
  cases kind with
  | createTable => exact finds_createTable
  | createIndex => exact finds_createIndex
  | insertInto => exact finds_insertInto
  | select => exact finds_select
  | dropTable | dropIndex | displayTable | deleteFrom | update => exact hwhole (by decide) (by decide)

/-! ## Recognition -/

/-- The first match of an expression that is written out. -/
def firstMatch? (pattern text : List Char) : Except Regex.Fault (Option (Nat × Reading Nat)) := do
  let (regex, _) ← Tree.read pattern >>= Tree.meaning {}
  return regex.find? text

theorem firstMatch?_openingText (kind : Kind) (text : List Char) :
    firstMatch? kind.openingText text =
      .ok ((kind.opening.read? text).map fun r => (0, r.relabel kind.number)) := by
  rw [firstMatch?, kind.meaning_openingText, ← finds_openingRegex]
  rfl

theorem firstMatch?_shapeText (kind : Kind) (text : List Char) :
    firstMatch? kind.shapeText text =
      .ok ((kind.shape.read? text).map fun r => (0, r.relabel kind.number)) := by
  rw [firstMatch?, kind.meaning_shapeText, ← finds_shapeRegex]
  rfl

/-- The command that a match gives, with the groups for its fields. -/
def ofMatch (kind : Kind) (r : Reading Nat) : Command where
  kind := kind
  captures := kind.fields.map fun field =>
    (field, ((r.parts.lookup (kind.number field)).map String.ofList).getD "")
  matched := String.ofList r.taken
  remainder := String.ofList r.rest

theorem lookup_relabel {ι κ : Type} [BEq ι] [LawfulBEq ι] [BEq κ] [LawfulBEq κ] {f : ι → κ} {r : Reading ι}
    {name : ι} (h : ∀ part ∈ r.parts, f part.1 = f name → part.1 = name) :
    (r.relabel f).parts.lookup (f name) = r.parts.lookup name := by
  obtain ⟨taken, parts, rest⟩ := r
  change (parts.map fun part => (f part.1, part.2)).lookup (f name) = parts.lookup name
  induction parts with
  | nil => rfl
  | cons part parts ih =>
    rw [List.forall_mem_cons] at h
    rw [List.map_cons, List.lookup_cons, List.lookup_cons, ih h.2]
    by_cases hname : part.1 = name
    · simp [hname]
    · have hlabel : name ≠ part.1 := fun heq => hname heq.symm
      have hother : f name ≠ f part.1 := fun heq => hname (h.1 heq.symm)
      simp only [beq_false_of_ne hlabel, beq_false_of_ne hother]

theorem number_inj {kind : Kind} {field other : Field} (h : field ∈ kind.fields)
    (heq : kind.number field = kind.number other) : field = other :=
  (List.idxOf_inj h).mp (Nat.succ_inj.mp heq)

theorem ofMatch_relabel {r : Reading Field} (h : kind.shape.read? text = some r) :
    ofMatch kind (r.relabel kind.number) = ofReading kind r := by
  rw [read?_eq_map_place?, Option.map_eq_some_iff] at h
  obtain ⟨s, hs, rfl⟩ := h
  have hnames : ∀ part ∈ (s.relabel Spot.name).parts, part.1 ∈ kind.fields := by
    intro part hpart
    obtain ⟨spot, hspot, rfl⟩ := List.mem_map.mp hpart
    exact name_mem_names (List.mem_of_head? hs) spot hspot
  have hlookup : ∀ field, ((s.relabel Spot.name).relabel kind.number).parts.lookup (kind.number field) =
      (s.relabel Spot.name).parts.lookup field :=
    fun field => lookup_relabel fun part hpart => number_inj (hnames part hpart)
  simp only [ofMatch, ofReading, fieldText?, hlookup]
  rfl

/-- A line is for the first kind whose opening has a match in it. -/
theorem classify_eq_find?_firstMatch? (line : String) :
    classify line = Kind.all.find? fun kind =>
      firstMatch? kind.openingText (normalize line) matches .ok (some _) := by
  have hopening : ∀ kind : Kind, (kind.opening.read? (normalize line)).isSome =
      (firstMatch? kind.openingText (normalize line) matches .ok (some _)) := by
    intro kind
    rw [firstMatch?_openingText]
    cases kind.opening.read? (normalize line) <;> rfl
  simp only [classify, hopening]

/-- A line is a command of a kind if the shape of the kind has a match in it, and the first match gives
the command. -/
theorem validate_eq_firstMatch? (kind : Kind) (line : String) :
    validate kind line =
      match firstMatch? kind.shapeText (normalize line) with
      | .ok (some (_, r)) => .ok (ofMatch kind r)
      | _ => .error ⟨kind⟩ := by
  rw [validate, firstMatch?_shapeText]
  cases h : kind.shape.read? (normalize line) with
  | none => rfl
  | some r => exact congrArg Except.ok (ofMatch_relabel h).symm

end SchemaShell.Command
