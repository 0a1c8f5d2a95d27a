import Mathlib.Tactic.Tauto
import SchemaShell.Proofs.Command.Written
import SchemaShell.Proofs.Pattern.Language

/-!
# The language of the shapes

What the pieces of a shape derive, in terms of written forms.
-/

namespace SchemaShell.Command.Shape

open Pattern Written

variable {text : List Char} {parts : List (Field × List Char)} {p : Shape}

/-! ## Pieces that name no part -/

/-- The pattern names no part, and its texts are those of `language`. -/
def Plain (p : Shape) (language : List Char → Prop) : Prop :=
  ∀ text parts, p.Derives text parts ↔ language text ∧ parts = []

theorem plain_gap : Plain gap Blanks := by
  intro text parts
  simp [gap, Derives, Blanks, CharClass.holds]

theorem plain_run_one (cls : CharClass) :
    Plain (run cls 1) fun text => text ≠ [] ∧ ∀ c ∈ text, cls.holds c = true := by
  intro text parts
  simp only [Derives, Nat.succ_le_iff, List.length_pos_iff]
  tauto

theorem plain_blanks : Plain blanks fun text => text ≠ [] ∧ Blanks text :=
  plain_run_one .blank

theorem plain_keyword (word : String) : Plain (keyword word) (Spells word) :=
  fun _ _ => Iff.rfl

theorem plain_identifier : Plain identifier Identifier := by
  intro text parts
  simp only [identifier, Derives, CharClass.holds, Nat.zero_le, true_and]
  constructor
  · rintro ⟨_, rest, _, _, ⟨⟨c, hc, rfl⟩, rfl⟩, ⟨hrest, rfl⟩, rfl, rfl⟩
    exact ⟨⟨hc, hrest⟩, rfl⟩
  · rintro ⟨h, rfl⟩
    cases text with
    | nil => exact h.elim
    | cons c rest => exact ⟨[c], rest, [], [], ⟨⟨c, h.1, rfl⟩, rfl⟩, ⟨h.2, rfl⟩, rfl, rfl⟩

theorem plain_shortIdentifier : Plain shortIdentifier Identifier := by
  intro text parts
  rw [← plain_identifier text parts]
  simp [shortIdentifier, identifier, Derives]

theorem Plain.seq_iff {first : Shape} {language : List Char → Prop} (h : Plain first language) :
    (seq first p).Derives text parts ↔
      ∃ front, language front ∧ ∃ back, text = front ++ back ∧ p.Derives back parts := by
  constructor
  · rintro ⟨front, back, fronts, backs, hf, hb, rfl, rfl⟩
    obtain ⟨hlang, rfl⟩ := (h front fronts).mp hf
    exact ⟨front, hlang, back, rfl, hb⟩
  · rintro ⟨front, hlang, back, rfl, hb⟩
    exact ((h front []).mpr ⟨hlang, rfl⟩).seq hb

theorem derives_mark {c : Char} : (mark c : Shape).Derives text parts ↔ text = [c] ∧ parts = [] := Iff.rfl

theorem derives_mark_seq {c : Char} :
    (seq (mark c) p).Derives text parts ↔ ∃ back, text = c :: back ∧ p.Derives back parts := by
  have hmark : Plain (mark c) (· = [c]) := fun _ _ => Iff.rfl
  rw [hmark.seq_iff]
  simp

theorem Plain.spaced_iff {token : Shape} {language : List Char → Prop} (h : Plain token language) :
    (seq gap (seq token (seq gap p))).Derives text parts ↔
      ∃ s : Spaced language, ∃ back, text = s.whole ++ back ∧ p.Derives back parts := by
  rw [plain_gap.seq_iff]
  simp only [h.seq_iff, plain_gap.seq_iff]
  constructor
  · rintro ⟨before, hbefore, _, rfl, token, htoken, _, rfl, after, hafter, back, rfl, hback⟩
    exact ⟨⟨⟨before, hbefore⟩, token, ⟨after, hafter⟩, htoken⟩, back, by simp [Spaced.whole], hback⟩
  · rintro ⟨s, back, rfl, hback⟩
    refine ⟨s.before, s.before.2, _, ?_, s.text, s.isToken, _, rfl, s.after, s.after.2, back, rfl, hback⟩
    simp [Spaced.whole]

theorem derives_spaced_seq {c : Char} :
    (seq (spaced c) p).Derives text parts ↔
      (seq gap (seq (mark c) (seq gap p))).Derives text parts := by
  have hspaced : Plain (spaced c) fun t => ∃ after before : Gap, t = after ++ c :: before := by
    intro t ps
    simp only [spaced, inOrder, plain_gap.seq_iff, derives_mark_seq, plain_gap _ _]
    constructor
    · rintro ⟨after, hafter, _, rfl, before, rfl, hbefore, rfl⟩
      exact ⟨⟨⟨after, hafter⟩, ⟨before, hbefore⟩, rfl⟩, rfl⟩
    · rintro ⟨⟨⟨after, hafter⟩, ⟨before, hbefore⟩, rfl⟩, rfl⟩
      exact ⟨after, hafter, _, rfl, before, rfl, hbefore, rfl⟩
  simp only [hspaced.seq_iff, plain_gap.seq_iff, derives_mark_seq]
  constructor
  · rintro ⟨_, ⟨after, before, rfl⟩, back, rfl, hback⟩
    exact ⟨after, after.2, _, by simp, _, rfl, before, before.2, back, rfl, hback⟩
  · rintro ⟨after, hafter, _, rfl, _, rfl, before, hbefore, back, rfl, hback⟩
    exact ⟨_, ⟨⟨after, hafter⟩, ⟨before, hbefore⟩, rfl⟩, back, by simp, hback⟩

theorem Plain.spaced_mark_iff {token : Shape} {language : List Char → Prop}
    (h : Plain token language) {c : Char} :
    (seq gap (seq token (seq (spaced c) p))).Derives text parts ↔
      ∃ s : Spaced language, ∃ back, text = s.whole ++ c :: back ∧ (seq gap p).Derives back parts := by
  have hassoc : (seq gap (seq token (seq (spaced c) p))).Derives text parts ↔
      (seq gap (seq token (seq gap (seq (mark c) (seq gap p))))).Derives text parts := by
    simp only [plain_gap.seq_iff, h.seq_iff, derives_spaced_seq]
  rw [hassoc, h.spaced_iff]
  simp only [derives_mark_seq]
  constructor
  · rintro ⟨s, _, rfl, back, rfl, hback⟩
    exact ⟨s, back, rfl, hback⟩
  · rintro ⟨s, back, rfl, hback⟩
    exact ⟨s, _, rfl, back, rfl, hback⟩

theorem plain_phrase (words : List String) : Plain (phrase words) (Phrase words) := by
  induction words with
  | nil => exact fun _ _ => Iff.rfl
  | cons word words ih =>
    cases words with
    | nil => exact plain_keyword word
    | cons next words =>
      intro text parts
      have hstep : phrase (word :: next :: words) =
          seq (keyword word) (seq blanks (phrase (next :: words))) := by
        cases words <;> rfl
      simp only [hstep, (plain_keyword word).seq_iff, plain_blanks.seq_iff, ih _ _, Phrase]
      constructor
      · rintro ⟨front, hf, _, rfl, gap, ⟨hne, hgap⟩, rest, rfl, hrest, rfl⟩
        exact ⟨⟨front, gap, rest, hf, hne, hgap, hrest, rfl⟩, rfl⟩
      · rintro ⟨⟨front, gap, rest, hf, hne, hgap, hrest, rfl⟩, rfl⟩
        exact ⟨front, hf, _, rfl, gap, ⟨hne, hgap⟩, rest, rfl, hrest, rfl⟩

theorem Plain.many {α : Type} {round : Shape} {write : α → List Char}
    (h : Plain round fun t => ∃ a, t = write a) (hne : ∀ a, write a ≠ []) :
    Plain (many round) fun t => ∃ as : List α, t = as.flatMap write := by
  intro t ps
  constructor
  · intro hrounds
    change Rounds round.Derives t ps at hrounds
    induction hrounds with
    | none => exact ⟨⟨[], rfl⟩, rfl⟩
    | more first _ _ ih =>
      obtain ⟨⟨a, rfl⟩, rfl⟩ := (h _ _).mp first
      obtain ⟨⟨as, rfl⟩, rfl⟩ := ih
      exact ⟨⟨a :: as, rfl⟩, rfl⟩
  · rintro ⟨⟨as, rfl⟩, rfl⟩
    induction as with
    | nil => exact .none
    | cons a as ih =>
      have ha : round.Derives (write a) [] := (h _ _).mpr ⟨⟨a, rfl⟩, rfl⟩
      exact .more ha (hne a) ih

theorem Plain.oneOrMore {α : Type} {round : Shape} {write : α → List Char}
    (h : Plain round fun t => ∃ a, t = write a) (hne : ∀ a, write a ≠ []) :
    Plain (oneOrMore round) fun t => ∃ as : List α, as ≠ [] ∧ t = as.flatMap write := by
  intro t ps
  simp only [Pattern.oneOrMore, h.seq_iff, h.many hne _ _]
  constructor
  · rintro ⟨_, ⟨a, rfl⟩, _, rfl, ⟨as, rfl⟩, rfl⟩
    exact ⟨⟨a :: as, by simp, rfl⟩, rfl⟩
  · rintro ⟨⟨as, has, rfl⟩, rfl⟩
    obtain ⟨a, as, rfl⟩ := List.exists_cons_of_ne_nil has
    exact ⟨_, ⟨a, rfl⟩, _, rfl, ⟨as, rfl⟩, rfl⟩

/-! ## Column lists -/

theorem plain_comma :
    Plain (optional (seq (mark ',') gap)) fun t => ∃ comma?, t = ColumnRecord.commaText comma? := by
  intro t ps
  change (seq (mark ',') gap).Derives t ps ∨ (t = [] ∧ ps = []) ↔ _
  rw [derives_mark_seq]
  simp only [plain_gap _ _]
  constructor
  · rintro (⟨blanks, rfl, hblanks, rfl⟩ | ⟨rfl, rfl⟩)
    · exact ⟨⟨some ⟨blanks, hblanks⟩, rfl⟩, rfl⟩
    · exact ⟨⟨none, rfl⟩, rfl⟩
  · rintro ⟨⟨_ | ⟨blanks, hblanks⟩, rfl⟩, rfl⟩
    · exact Or.inr ⟨rfl, rfl⟩
    · exact Or.inl ⟨blanks, rfl, hblanks, rfl⟩

/-- A comma may be left out with only the blanks around it to show for it. -/
theorem plain_looseComma :
    Plain (inOrder [gap, optional (mark ','), gap]) fun t =>
      ∃ (after : Gap) (comma? : Option Gap), t = after ++ ColumnRecord.commaText comma? := by
  have hcomma : Plain (optional (mark ',')) fun t => t = [','] ∨ t = [] := by
    intro t ps
    simp only [Pattern.optional, Derives, or_and_right]
  intro t ps
  simp only [inOrder, plain_gap.seq_iff, hcomma.seq_iff, plain_gap _ _]
  constructor
  · rintro ⟨after, hafter, _, rfl, _, rfl | rfl, _, rfl, hblanks, rfl⟩
    · exact ⟨⟨⟨after, hafter⟩, some ⟨_, hblanks⟩, rfl⟩, rfl⟩
    · refine ⟨⟨joinGaps ⟨after, hafter⟩ ⟨_, hblanks⟩, none, ?_⟩, rfl⟩
      simp [joinGaps, ColumnRecord.commaText]
  · rintro ⟨⟨after, _ | blanks, rfl⟩, rfl⟩
    · exact ⟨after, after.2, [], rfl, [], Or.inr rfl, [], rfl, noGap.2, rfl⟩
    · exact ⟨after, after.2, _, rfl, [','], Or.inl rfl, blanks, rfl, blanks.2, rfl⟩

theorem plain_columnRecord : Plain columnRecord fun t => ∃ r : ColumnRecord, t = r.text := by
  intro t ps
  simp only [columnRecord, inOrder, derives_mark_seq, plain_identifier.spaced_mark_iff,
    (plain_run_one .letter).spaced_mark_iff, (plain_run_one .digit).spaced_mark_iff,
    (plain_run_one .alphanumeric).spaced_iff, plain_gap.seq_iff, plain_comma _ _]
  constructor
  · rintro ⟨_, rfl, name, _, rfl, type, _, rfl, size, _, rfl, default, _, rfl, _, rfl, after, hafter,
      _, rfl, ⟨comma?, rfl⟩, rfl⟩
    exact ⟨⟨⟨name, type, size, default, ⟨after, hafter⟩, comma?⟩, rfl⟩, rfl⟩
  · rintro ⟨⟨⟨name, type, size, default, after, comma?⟩, rfl⟩, rfl⟩
    exact ⟨_, rfl, name, _, rfl, type, _, rfl, size, _, rfl, default, _, rfl, _, rfl, after, after.2,
      _, rfl, ⟨comma?, rfl⟩, rfl⟩

theorem plain_columnList :
    Plain (oneOrMore columnRecord) fun t =>
      ∃ rs : List ColumnRecord, rs ≠ [] ∧ t = rs.flatMap ColumnRecord.text :=
  plain_columnRecord.oneOrMore fun r => by simp [ColumnRecord.text]

end SchemaShell.Command.Shape
