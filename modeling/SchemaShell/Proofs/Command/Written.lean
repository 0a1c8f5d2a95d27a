import SchemaShell.Command.Basic
import SchemaShell.Proofs.Text.Classes

/-!
# Commands as they are written

The texts that a command may have, told without patterns. A written form is made of tokens and of
the blanks between them, and `text` puts it together.
-/

namespace SchemaShell.Command.Written

/-! ## Tokens -/

def Blanks (text : List Char) : Prop := ∀ c ∈ text, Text.isBlank c = true

/-- A keyword, in any mixture of capitals and small letters. -/
def Spells (word : String) (text : List Char) : Prop := text.map Char.toUpper = word.toList

def Word (text : List Char) : Prop := text ≠ [] ∧ ∀ c ∈ text, c.isAlphanum = true

def Letters (text : List Char) : Prop := text ≠ [] ∧ ∀ c ∈ text, c.isAlpha = true

def Digits (text : List Char) : Prop := text ≠ [] ∧ ∀ c ∈ text, c.isDigit = true

def Identifier : List Char → Prop
  | [] => False
  | first :: rest => first.isAlpha = true ∧ ∀ c ∈ rest, c.isAlphanum = true

theorem Identifier.append {text more : List Char} (h : Identifier text)
    (hmore : ∀ c ∈ more, c.isAlphanum = true) : Identifier (text ++ more) := by
  cases text with
  | nil => exact h.elim
  | cons first rest => exact ⟨h.1, fun c hc => (List.mem_append.mp hc).elim (h.2 c) (hmore c)⟩

theorem Letters.word {text : List Char} (h : Letters text) : Word text :=
  ⟨h.1, fun c hc => Text.isAlphanum_of_isAlpha (h.2 c hc)⟩

theorem Digits.word {text : List Char} (h : Digits text) : Word text :=
  ⟨h.1, fun c hc => Text.isAlphanum_of_isDigit (h.2 c hc)⟩

theorem Identifier.word {text : List Char} (h : Identifier text) : Word text := by
  cases text with
  | nil => exact h.elim
  | cons first rest =>
    refine ⟨by simp, fun c hc => ?_⟩
    rcases List.mem_cons.mp hc with rfl | hc
    · exact Text.isAlphanum_of_isAlpha h.1
    · exact h.2 c hc

/-- Keywords in order, with at least one blank between two of them. -/
def Phrase : List String → List Char → Prop
  | [], text => text = []
  | [word], text => Spells word text
  | word :: words, text =>
    ∃ first gap rest, Spells word first ∧ gap ≠ [] ∧ Blanks gap ∧ Phrase words rest ∧
      text = first ++ (gap ++ rest)

/-- Blanks that may be missing. -/
abbrev Gap := {text : List Char // Blanks text}

def noGap : Gap := ⟨[], by simp [Blanks]⟩

def joinGaps (first second : Gap) : Gap :=
  ⟨first ++ second, fun c hc => (List.mem_append.mp hc).elim (first.2 c) (second.2 c)⟩

/-- A token with the blanks around it. -/
structure Spaced (token : List Char → Prop) where
  before : Gap
  text : List Char
  after : Gap
  isToken : token text

def Spaced.whole {token : List Char → Prop} (s : Spaced token) : List Char :=
  s.before ++ (s.text ++ s.after)

/-! ## Column records -/

/-- One column in parentheses, and perhaps a comma after it. -/
structure ColumnRecord where
  name : Spaced Identifier
  type : Spaced Letters
  size : Spaced Digits
  default : Spaced Word
  after : Gap
  /-- The comma, given by the blanks after it. -/
  comma? : Option Gap

namespace ColumnRecord

def commaText : Option Gap → List Char
  | none => []
  | some gap => ',' :: gap

def text (r : ColumnRecord) : List Char :=
  '(' :: (r.name.whole ++ ',' :: (r.type.whole ++ ',' :: (r.size.whole ++ ',' :: (r.default.whole ++
    ')' :: (r.after ++ commaText r.comma?)))))

/-- The record with more blanks at its end. -/
def widen (r : ColumnRecord) (gap : Gap) : ColumnRecord :=
  match r.comma? with
  | none => { r with after := joinGaps r.after gap }
  | some blanks => { r with comma? := some (joinGaps blanks gap) }

theorem text_widen (r : ColumnRecord) (gap : Gap) : (r.widen gap).text = r.text ++ gap := by
  rcases r with ⟨name, type, size, default, after, _ | blanks⟩ <;>
    simp [widen, text, commaText, joinGaps]

def tokens (r : ColumnRecord) : List (List Char) :=
  [r.name.text, r.type.text, r.size.text, r.default.text]

end ColumnRecord

/-- The column block that some records are written as. -/
def blockOf (rs : List ColumnRecord) : String :=
  String.ofList (rs.flatMap ColumnRecord.text)

/-! ## CREATE TABLE -/

/-- What stands after the name of the table. -/
structure TableBody where
  afterName : Gap
  /-- The words `IF NOT EXISTS`. -/
  clause? : Option {text : List Char // Phrase ["IF", "NOT", "EXISTS"] text}
  afterClause : Gap
  afterOpening : Gap
  columns : List ColumnRecord
  columns_ne_nil : columns ≠ []
  beforeClosing : Gap

namespace TableBody

def clauseText (b : TableBody) : List Char :=
  (b.clause?.map Subtype.val).getD []

/-- The columns as they are written, with the blanks before the closing parenthesis. -/
def block (b : TableBody) : List Char :=
  b.columns.flatMap ColumnRecord.text ++ b.beforeClosing

/-- The fields that the text after the name fills. -/
def parts (b : TableBody) : List (Field × List Char) :=
  (b.clause?.map fun clause => (Field.ifNotExists, clause.val)).toList ++ [(.columns, b.block)]

def text (b : TableBody) : List Char :=
  b.afterName ++ (b.clauseText ++ (b.afterClause ++ '(' :: (b.afterOpening ++ (b.block ++ [')']))))

end TableBody

structure CreateTable where
  /-- The words `CREATE TABLE`. -/
  opening : List Char
  isOpening : Phrase ["CREATE", "TABLE"] opening
  beforeName : Gap
  beforeName_ne_nil : beforeName.val ≠ []
  name : List Char
  isName : Identifier name
  body : TableBody

namespace CreateTable

def text (f : CreateTable) : List Char :=
  f.opening ++ (f.beforeName ++ (f.name ++ f.body.text))

def parts (f : CreateTable) : List (Field × List Char) :=
  (.table, f.name) :: f.body.parts

/-- The command that is read from this form when `rest` follows it. -/
def command (f : CreateTable) (rest : List Char) : Command where
  kind := .createTable
  captures :=
    [(.table, String.ofList f.name), (.ifNotExists, String.ofList f.body.clauseText),
      (.columns, String.ofList f.body.block)]
  matched := String.ofList f.text
  remainder := String.ofList rest

end CreateTable

end SchemaShell.Command.Written
