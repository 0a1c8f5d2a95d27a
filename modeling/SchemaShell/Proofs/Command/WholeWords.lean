import SchemaShell.Proofs.Command.CreateTable
import SchemaShell.Proofs.Pattern.Words

/-!
# Names and values are whole words

The names and values that a command keeps are whole words of its line. Only the name of a new table
may be cut short, when the clause `IF NOT EXISTS` follows it without a blank.
-/

namespace SchemaShell.Command

open Pattern Shape Written Lead

variable {kind : Kind} {before text : List Char} {r : Reading (Spot Field)}

/-- The fields that hold one name or one value. -/
def Field.isWord : Field → Bool
  | table | index | column | value | setColumn | setValue | whereColumn | whereValue => true
  | ifNotExists | columns | values | all => false

theorem shape_wordsStartApart (kind : Kind) :
    kind.shape.wordsStartApart Field.isWord true = true := by
  cases kind <;> decide

theorem shape_wordsAreRuns (h : kind ≠ .createTable) :
    kind.shape.wordsAreRuns Field.isWord = true := by
  cases kind <;> first | contradiction | decide

theorem shape_wordsAreSolid (kind : Kind) : kind.shape.wordsAreSolid Field.isWord = true := by
  cases kind <;> decide

theorem exists_placed_of_fits {line : String} {command : Command}
    (h : validate kind line = .ok command) :
    ∃ r, kind.shape.place? (normalize line) = some r ∧ ofReading kind (r.relabel Spot.name) = command := by
  obtain ⟨plain, hplain, rfl⟩ := validate_eq_ok_iff.mp h
  rw [read?_eq_map_place?, Option.map_eq_some_iff] at hplain
  obtain ⟨r, hr, rfl⟩ := hplain
  exact ⟨r, hr, rfl⟩

/-! ## What a word is made of -/

theorem mem_of_lookup_eq_some {κ α : Type} [BEq κ] [LawfulBEq κ] {key : κ} {value : α}
    {pairs : List (κ × α)} (h : pairs.lookup key = some value) : (key, value) ∈ pairs := by
  obtain ⟨front, back, rfl, -⟩ := List.lookup_eq_some_iff.mp h
  simp

theorem isAlphanum_of_get? {line : String} {command : Command} {field : Field} {text : String}
    (h : validate kind line = .ok command) (hfield : field.isWord = true)
    (htext : command.get? field = some text) : ∀ c ∈ text.toList, c.isAlphanum = true := by
  obtain ⟨r, hr, rfl⟩ := exists_placed_of_fits h
  have hcapture : (field, text) ∈ (ofReading kind (r.relabel Spot.name)).captures :=
    mem_of_lookup_eq_some (Option.filter_eq_some_iff.mp htext).1
  obtain ⟨_, -, hpair⟩ := List.mem_map.mp hcapture
  cases hpair
  rw [fieldText?]
  cases hlookup : (r.relabel Spot.name).parts.lookup field with
  | none => simp
  | some value =>
    obtain ⟨s, hs, hpart⟩ := List.mem_map.mp (mem_of_lookup_eq_some hlookup)
    cases hpart
    simpa using isAlphanum_of_word (List.mem_of_head? hr) (shape_wordsAreSolid kind) s hs hfield

/-! ## The name in CREATE TABLE -/

def ClauseAt (behind clause : List Char) : Prop :=
  Phrase ["IF", "NOT", "EXISTS"] clause ∧ clause <+: behind

theorem startsApart_of_before (h : Before [.one .blank, .mark '('] text) : StartsApart text := by
  intro c hc
  obtain ⟨lead, hlead, hholds⟩ := h c hc
  simp only [List.mem_cons, List.not_mem_nil, or_false] at hlead
  rcases hlead with rfl | rfl
  · exact Text.not_isAlphanum_of_isBlank hholds
  · obtain rfl : c = '(' := hholds
    rfl

theorem startsApart_or_clauseAt (b : TableBody) (rest : List Char) :
    StartsApart (b.text ++ rest) ∨
      ∃ clause, b.clause? = some clause ∧ ClauseAt (b.text ++ rest) clause := by
  rcases before_body_or_clause b rest with hbefore | ⟨clause, hclause, hprefix⟩
  · exact Or.inl (startsApart_of_before hbefore)
  · exact Or.inr ⟨clause, hclause, clause.2, hprefix⟩

theorem exists_body_of_mem_placed (h : r ∈ Kind.createTable.shape.placed before text) :
    ∃ spot name others, ∃ b : TableBody, r.parts = (spot, name) :: others ∧
      (∀ s ∈ others, s.1.name.isWord = false) ∧ spot.name = .table ∧
      (others.map fun part => (part.1.name, part.2)) = b.parts ∧ b.text <+: spot.behind := by
  rw [shape_createTable] at h
  obtain ⟨opening, hopening, afterOpening, hafter, rfl⟩ := mem_placed_seq.mp h
  obtain ⟨gap, hgap, afterGap, hnamed, rfl⟩ := mem_placed_seq.mp hafter
  obtain ⟨_, htable, body, hbody, rfl⟩ := mem_placed_seq.mp hnamed
  obtain ⟨name, hname, rfl⟩ := List.mem_map.mp htable
  obtain ⟨b, htext, hparts⟩ := derives_tableBody.mp (derives_of_mem_placed hbody)
  refine ⟨⟨.table, before ++ opening.taken ++ gap.taken, name.rest⟩, name.taken, body.parts, b, ?_, ?_,
    rfl, hparts, body.rest, ?_⟩
  · have hplain := parts_eq_nil (by decide) hname
    simp [Reading.followedBy, Reading.named, hplain,
      parts_eq_nil (by decide) hopening, parts_eq_nil (by decide) hgap]
  · have hfields : ∀ field ∈ tableBody.names, field.isWord = false := by decide
    exact fun s hs => hfields _ (name_mem_names hbody s hs)
  · rw [← htext]
    exact taken_append_rest_of_mem_placed hbody

theorem get?_clause {b : TableBody} {name : List Char}
    {clause : {text : List Char // Phrase ["IF", "NOT", "EXISTS"] text}} (hb : b.clause? = some clause)
    {r : Reading Field} (hr : r.parts = (.table, name) :: b.parts) :
    (ofReading .createTable r).get? .ifNotExists = some (String.ofList clause) := by
  have hparts : r.parts.lookup .ifNotExists = some clause.val := by
    rw [hr, TableBody.parts, hb]
    rfl
  have hcapture : (ofReading .createTable r).captures.lookup .ifNotExists =
      some (String.ofList clause.val) := by
    change some ((fieldText? r .ifNotExists).getD "") = _
    rw [fieldText?, hparts]
    rfl
  have hne : clause.val ≠ [] := by
    obtain ⟨first, gap, rest, -, hgap, -, -, hsplit⟩ := clause.2
    simp [hsplit, hgap]
  rw [get?_eq hcapture, if_neg hne]

/-! ## All kinds -/

/-- The names and values that a line is read with are whole words of the line: before them and behind
them stands no letter or digit. Only behind the name of a new table the clause may follow at once, and
then it is read as the clause. -/
theorem captured_words_are_whole {line : String} {command : Command}
    (h : validate kind line = .ok command) :
    ∃ r, kind.shape.place? (normalize line) = some r ∧ ofReading kind (r.relabel Spot.name) = command ∧
      ∀ s ∈ r.parts, s.1.before ++ (s.2 ++ s.1.behind) = normalize line ∧
        (s.1.name.isWord = true → EndsApart s.1.before ∧
          (StartsApart s.1.behind ∨ kind = .createTable ∧ s.1.name = .table ∧
            ∃ clause, ClauseAt s.1.behind clause ∧
              command.get? .ifNotExists = some (String.ofList clause))) := by
  obtain ⟨r, hr, rfl⟩ := exists_placed_of_fits h
  have hmem := List.mem_of_head? hr
  refine ⟨r, hr, rfl, fun s hs => ?_⟩
  obtain ⟨body, -, hspot⟩ := exists_body_of_mem_parts hmem hs
  refine ⟨hspot.within, fun hword => ⟨?_, ?_⟩⟩
  · exact endsApart_before hmem (shape_wordsStartApart kind) (by simp [EndsApart]) s hs hword
  · by_cases hkind : kind = .createTable
    · subst hkind
      obtain ⟨spot, name, others, b, hparts, hothers, hname, hb, back, hbehind⟩ :=
        exists_body_of_mem_placed hmem
      rw [hparts] at hs
      rcases List.mem_cons.mp hs with rfl | hs
      · rw [← hbehind]
        refine (startsApart_or_clauseAt b back).imp_right ?_
        rintro ⟨clause, hclause, hat⟩
        have hrelabel : (r.relabel Spot.name).parts = (.table, name) :: b.parts := by
          simp [Reading.relabel, hparts, hname, hb]
        exact ⟨rfl, hname, clause, hat, get?_clause hclause hrelabel⟩
      · rw [hothers s hs] at hword
        cases hword
    · exact Or.inl (startsApart_behind hmem (shape_wordsAreRuns hkind) s hs hword)

theorem captured_words_are_whole_of_drop :
    validate .dropTable "drop table t ;" = .ok ⟨.dropTable, [(.table, "t")], "drop table t", ""⟩ ∧
    ∃ r, Kind.dropTable.shape.place? (normalize "drop table t ;") = some r ∧
      ofReading .dropTable (r.relabel Spot.name) = ⟨.dropTable, [(.table, "t")], "drop table t", ""⟩ ∧
      ∀ s ∈ r.parts, s.1.before ++ (s.2 ++ s.1.behind) = normalize "drop table t ;" ∧
        (s.1.name.isWord = true → EndsApart s.1.before ∧
          (StartsApart s.1.behind ∨ Kind.dropTable = .createTable ∧ s.1.name = .table ∧
            ∃ clause, ClauseAt s.1.behind clause ∧
              Command.get? ⟨.dropTable, [(.table, "t")], "drop table t", ""⟩ .ifNotExists =
                some (String.ofList clause))) :=
  ⟨rfl, captured_words_are_whole rfl⟩

/-- The name of the table is only the first letter of the word that is written. -/
theorem clause_cuts_the_name :
    ∃ r command, ∃ s ∈ r.parts,
      Kind.createTable.shape.place? (normalize "CREATE TABLE tIF NOT EXISTS ((a,number,1,0))") = some r ∧
      validate .createTable "CREATE TABLE tIF NOT EXISTS ((a,number,1,0))" = .ok command ∧
      command.get? .table = some "t" ∧ s.1.name = .table ∧ s.2 = "t".toList ∧
      ¬ StartsApart s.1.behind := by
  refine ⟨⟨"CREATE TABLE tIF NOT EXISTS ((a,number,1,0))".toList, _, []⟩, _, _, List.mem_cons_self, rfl,
    rfl, rfl, rfl, rfl, ?_⟩
  intro h
  exact absurd (h 'I' rfl) (by decide)

end SchemaShell.Command
