import SchemaShell.Proofs.Command.Opening
import SchemaShell.Proofs.Pattern.Sequence

/-!
# Clauses

The parts that several commands share: the words in front, names, the equation of a column and a
value, and the WHERE clause. Each is told as a written form, and the pattern for it derives these
forms and no others.
-/

namespace SchemaShell.Command

open Pattern Shape Written

/-! ## Written forms -/

namespace Written

/-- Blanks that have to be there. -/
abbrev Space := {text : List Char // text ≠ [] ∧ Blanks text}

abbrev Name := {text : List Char // Word text}

abbrev Keyword (word : String) := {text : List Char // Spells word text}

abbrev Opening (kind : Kind) := {text : List Char // Phrase kind.words text}

theorem Space.startsApart (space : Space) (rest : List Char) : StartsApart (space ++ rest) := by
  intro c hc
  rw [List.head?_append_of_ne_nil _ space.2.1] at hc
  exact Text.not_isAlphanum_of_isBlank (space.2.2 c (List.mem_of_head? hc))

theorem Name.exists_whole (name : Name) (rest : List Char) :
    ∃ whole : Name, ∃ tail, name ++ rest = whole ++ tail ∧ StartsApart tail ∧ name.val <+: whole := by
  obtain ⟨more, tail, rfl, hmore, hapart⟩ := exists_run Char.isAlphanum rest
  have hword : Word (name ++ more) :=
    ⟨List.append_ne_nil_of_left_ne_nil name.2.1 _,
      fun c hc => (List.mem_append.mp hc).elim (name.2.2 c) (hmore c)⟩
  exact ⟨⟨_, hword⟩, tail, (List.append_assoc _ _ _).symm, hapart, List.prefix_append _ _⟩

/-- A column, the mark, and the value that it is set to or compared with. -/
structure Equation where
  column : Name
  beforeMark : Gap
  afterMark : Gap
  value : Name

namespace Equation

def text (e : Equation) : List Char :=
  e.column ++ (e.beforeMark ++ '=' :: (e.afterMark ++ e.value))

def parts (e : Equation) (left right : Field) : List (Field × List Char) :=
  [(left, e.column), (right, e.value)]

/-- Both have the same column, and the value of the second goes on with that of the first. -/
structure CutOf (e whole : Equation) : Prop where
  column : e.column = whole.column
  value : e.value.val <+: whole.value

theorem exists_whole (e : Equation) (rest : List Char) :
    ∃ whole : Equation, ∃ tail, e.text ++ rest = whole.text ++ tail ∧ StartsApart tail ∧ e.CutOf whole := by
  obtain ⟨value, tail, hsplit, hapart, hprefix⟩ := e.value.exists_whole rest
  refine ⟨{ e with value := value }, tail, ?_, hapart, rfl, hprefix⟩
  simp only [text, List.append_assoc, List.cons_append, hsplit]

end Equation

structure Filter where
  word : Keyword "WHERE"
  afterWord : Space
  equation : Equation

namespace Filter

def text (w : Filter) : List Char :=
  w.word ++ (w.afterWord ++ w.equation.text)

theorem exists_whole (w : Filter) (rest : List Char) :
    ∃ whole : Filter, ∃ tail, w.text ++ rest = whole.text ++ tail ∧ StartsApart tail ∧
      w.equation.CutOf whole.equation := by
  obtain ⟨equation, tail, hsplit, hapart, hcut⟩ := w.equation.exists_whole rest
  refine ⟨{ w with equation := equation }, tail, ?_, hapart, hcut⟩
  simp only [text, List.append_assoc, hsplit]

end Filter

end Written

variable {kind : Kind} {line : String} {text : List Char} {parts : List (Field × List Char)}
  {p : Shape} {field left right : Field}

/-! ## What the patterns derive -/

namespace Shape

theorem Plain.seq_iff_exists {first : Shape} {language : List Char → Prop} (h : Plain first language) :
    (seq first p).Derives text parts ↔
      ∃ front : Subtype language, ∃ back, text = front ++ back ∧ p.Derives back parts := by
  rw [h.seq_iff]
  constructor
  · rintro ⟨front, hfront, back, hback⟩
    exact ⟨⟨front, hfront⟩, back, hback⟩
  · rintro ⟨front, back, hback⟩
    exact ⟨front, front.2, back, hback⟩

theorem derives_word : (word field).Derives text parts ↔ Word text ∧ parts = [(field, text)] := by
  constructor
  · rintro ⟨inner, hname, rfl⟩
    obtain ⟨hword, rfl⟩ := (plain_run_one .alphanumeric _ _).mp hname
    exact ⟨hword, rfl⟩
  · rintro ⟨hword, rfl⟩
    exact ⟨[], (plain_run_one .alphanumeric _ _).mpr ⟨hword, rfl⟩, rfl⟩

theorem derives_word_seq :
    (seq (word field) p).Derives text parts ↔
      ∃ name : Name, ∃ back later, text = name ++ back ∧ parts = (field, name.val) :: later ∧
        p.Derives back later := by
  constructor
  · rintro ⟨front, back, _, later, hfront, hback, rfl, rfl⟩
    obtain ⟨hword, rfl⟩ := derives_word.mp hfront
    exact ⟨⟨front, hword⟩, back, later, rfl, rfl, hback⟩
  · rintro ⟨name, back, later, rfl, rfl, hback⟩
    exact (derives_word.mpr ⟨name.2, rfl⟩).seq hback

theorem derives_ifNotExists_seq {p : Shape} :
    (seq Shape.ifNotExists p).Derives text parts ↔
      ∃ words : {text : List Char // Phrase ["IF", "NOT", "EXISTS"] text}, ∃ back later,
        text = words ++ back ∧ parts = (.ifNotExists, words.val) :: later ∧ p.Derives back later := by
  constructor
  · rintro ⟨front, back, _, later, ⟨inner, hinner, rfl⟩, hback, rfl, rfl⟩
    obtain ⟨hphrase, rfl⟩ := (plain_phrase _ _ _).mp hinner
    exact ⟨⟨front, hphrase⟩, back, later, rfl, rfl, hback⟩
  · rintro ⟨words, back, later, rfl, rfl, hback⟩
    have hwords : Shape.ifNotExists.Derives words [(.ifNotExists, words.val)] :=
      ⟨[], (plain_phrase _ _ _).mpr ⟨words.2, rfl⟩, rfl⟩
    exact hwords.seq hback

theorem derives_equation :
    (equation left right).Derives text parts ↔
      ∃ e : Equation, text = e.text ∧ parts = e.parts left right := by
  simp only [equation, inOrder, derives_word_seq, derives_spaced_seq, plain_gap.seq_iff_exists,
    derives_mark_seq, derives_word]
  constructor
  · rintro ⟨column, _, _, rfl, rfl, before, _, rfl, _, rfl, after, _, rfl, hvalue, rfl⟩
    exact ⟨⟨column, before, after, ⟨_, hvalue⟩⟩, rfl, rfl⟩
  · rintro ⟨e, rfl, rfl⟩
    exact ⟨e.column, _, _, rfl, rfl, e.beforeMark, _, rfl, _, rfl, e.afterMark, _, rfl, e.value.2, rfl⟩

theorem derives_equation_seq :
    (seq (equation left right) p).Derives text parts ↔
      ∃ e : Equation, ∃ back later, text = e.text ++ back ∧ parts = e.parts left right ++ later ∧
        p.Derives back later := by
  constructor
  · rintro ⟨front, back, fronts, later, hfront, hback, rfl, rfl⟩
    obtain ⟨e, rfl, rfl⟩ := derives_equation.mp hfront
    exact ⟨e, back, later, rfl, rfl, hback⟩
  · rintro ⟨e, back, later, rfl, rfl, hback⟩
    exact (derives_equation.mpr ⟨e, rfl, rfl⟩).seq hback

def filter (left right : Field) : Shape :=
  inOrder [keyword "WHERE", blanks, equation left right]

theorem derives_filter :
    (filter left right).Derives text parts ↔
      ∃ w : Filter, text = w.text ∧ parts = w.equation.parts left right := by
  simp only [filter, inOrder, (plain_keyword "WHERE").seq_iff_exists, plain_blanks.seq_iff_exists,
    derives_equation]
  constructor
  · rintro ⟨word, _, rfl, space, _, rfl, e, rfl, rfl⟩
    exact ⟨⟨word, space, e⟩, rfl, rfl⟩
  · rintro ⟨w, rfl, rfl⟩
    exact ⟨w.word, _, rfl, w.afterWord, _, rfl, w.equation, rfl, rfl⟩

end Shape

theorem before_keyword {word : String} {first : Char} (hfirst : word.toList.head? = some first)
    (w : Keyword word) (rest : List Char) : Lead.Before [.initial first] (w ++ rest) := by
  have hderives : (keyword word : Shape).Derives w [] := ⟨w.2, rfl⟩
  have hahead := before_ahead_of_derives hderives (Lead.before_any rest)
  have hword : word.toList ≠ [] := by
    intro hnil
    simp [hnil] at hfirst
  simpa [ahead, leads, mayVanish, hfirst, hword] using hahead

/-! ## Fields of a command -/

theorem get?_eq {command : Command} {field : Field} {text : List Char}
    (h : command.captures.lookup field = some (String.ofList text)) :
    command.get? field = if text = [] then none else some (String.ofList text) := by
  have hempty : String.ofList text = "" ↔ text = [] := by
    rw [← String.toList_inj, String.toList_ofList]
    rfl
  by_cases ht : text = [] <;> simp [get?, h, hempty, ht]

/-! ## Reading -/

theorem read?_gap (text : List Char) :
    (gap : Shape).read? text = some ⟨text.takeWhile Text.isBlank, [], text.dropWhile Text.isBlank⟩ := by
  rw [gap, Pattern.read?, readings, front_takeWhile]
  rfl

theorem read?_before_gap {ps : List Shape} {front tail : List Char}
    (h : (inOrder ps).read? text = some ⟨front, parts, tail⟩) :
    (inOrder (ps ++ [gap])).read? text =
      some ⟨front ++ tail.takeWhile Text.isBlank, parts, tail.dropWhile Text.isBlank⟩ := by
  have hgap : (inOrder [gap]).read? tail =
      some ⟨tail.takeWhile Text.isBlank, [], tail.dropWhile Text.isBlank⟩ := read?_gap tail
  simpa [Reading.followedBy] using read?_inOrder_append h hgap

theorem exists_reading_of_fits {command : Command} (h : validate kind line = .ok command) :
    ∃ opening : Opening kind, ∃ text, normalize line = opening ++ text ∧ ∃ r, r ∈ kind.body.readings text := by
  obtain ⟨whole, hwhole, -⟩ := validate_eq_ok_iff.mp h
  obtain ⟨front, hfront, hback⟩ := List.mem_flatMap.mp (List.mem_of_head? hwhole)
  obtain ⟨r, hr, -⟩ := List.mem_map.mp hback
  obtain ⟨opening, hopening, htext⟩ := begins_of_mem_readings hfront
  exact ⟨⟨opening, hopening⟩, front.rest, htext, r, hr⟩

theorem exists_body_of_fits {command : Command} (h : validate kind line = .ok command) :
    ∃ opening : Opening kind, ∃ r : Reading Field, normalize line = opening ++ (r.taken ++ r.rest) ∧
      kind.body.Derives r.taken r.parts := by
  obtain ⟨opening, text, htext, r, hr⟩ := exists_reading_of_fits h
  refine ⟨opening, r, ?_, derives_of_mem_readings _ _ r hr⟩
  rw [htext, taken_append_rest _ _ r hr]

theorem exists_front_of_fits {ps : List Shape} {command : Command} (hkind : kind.body = inOrder (ps ++ [gap]))
    (h : validate kind line = .ok command) :
    ∃ opening : Opening kind, ∃ r : Reading Field, normalize line = opening ++ (r.taken ++ r.rest) ∧
      (inOrder ps).Derives r.taken r.parts := by
  obtain ⟨opening, text, htext, whole, hwhole⟩ := exists_reading_of_fits h
  rw [hkind, readings_inOrder_append] at hwhole
  obtain ⟨r, hr, -⟩ := List.mem_flatMap.mp hwhole
  refine ⟨opening, r, ?_, derives_of_mem_readings _ _ r hr⟩
  rw [htext, taken_append_rest _ _ r hr]

theorem validate_of_body {opening : Opening kind} {r : Reading Field}
    (htext : normalize line = opening ++ text) (hread : kind.body.read? text = some r) :
    validate kind line = .ok (ofReading kind ⟨opening ++ r.taken, r.parts, r.rest⟩) := by
  rw [validate_eq_ok_iff, htext]
  exact ⟨_, read?_seq (read?_phrase opening.2 text) hread, rfl⟩

theorem validate_of_endsInWord {ps : List Shape} {opening : Opening kind} {body tail : List Char}
    (hkind : kind.body = inOrder (ps ++ [gap])) (hends : (inOrder ps).EndsInWord)
    (hderives : (inOrder ps).Derives body parts) (htext : normalize line = opening ++ body ++ tail)
    (hapart : StartsApart tail) :
    validate kind line =
      .ok (ofReading kind ⟨opening ++ body ++ tail.takeWhile Text.isBlank, parts, tail.dropWhile Text.isBlank⟩) := by
  have hread := read?_before_gap (read?_of_endsInWord hends hderives hapart)
  rw [← hkind] at hread
  rw [List.append_assoc] at htext ⊢
  exact validate_of_body htext hread

/-- A kind whose forms end in a word is told by the forms in which this word is whole. -/
theorem validate_eq_ok_iff_of_forms {Form : Type} {written : Form → List Char}
    {ofForm : Form → List Char → Command} {command : Command}
    (hform : ∀ read, validate kind line = .ok read → ∃ f, written f <+: normalize line)
    (hwhole : ∀ f, written f <+: normalize line →
      ∃ whole tail, normalize line = written whole ++ tail ∧ StartsApart tail)
    (hread : ∀ f tail, normalize line = written f ++ tail → StartsApart tail →
      validate kind line = .ok (ofForm f tail)) :
    validate kind line = .ok command ↔
      ∃ f tail, normalize line = written f ++ tail ∧ StartsApart tail ∧ command = ofForm f tail := by
  constructor
  · intro h
    obtain ⟨first, hfirst⟩ := hform command h
    obtain ⟨f, tail, htext, hapart⟩ := hwhole first hfirst
    exact ⟨f, tail, htext, hapart, Except.ok.inj (h.symm.trans (hread f tail htext hapart))⟩
  · rintro ⟨f, tail, htext, hapart, rfl⟩
    exact hread f tail htext hapart

end SchemaShell.Command
