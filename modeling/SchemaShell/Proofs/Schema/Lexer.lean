import Mathlib.Data.List.TakeWhile
import SchemaShell.Proofs.Text.Classes
import SchemaShell.Schema.Fields

/-!
# The cut rule

The fields of a text are told here from one character and the next, with no loop: a character that is no
separator goes into a field, and it stays with what follows when that is a letter or digit. Taking field
after field off the front of the text comes to the same.
-/

namespace SchemaShell.Schema

/-- Whether the first character of a text goes on with a field that is open in front of it. -/
def continues (text : List Char) : Bool :=
  text.head?.any Char.isAlphanum

def extendFirst (c : Char) : List (List Char) → List (List Char)
  | [] => [[c]]
  | field :: fields => (c :: field) :: fields

/-- The fields of a text, in order. -/
def fieldsOf : List Char → List (List Char)
  | [] => []
  | c :: text =>
    if isSeparator c then fieldsOf text
    else if continues text then extendFirst c (fieldsOf text)
    else [c] :: fieldsOf text

@[simp] theorem fieldsOf_nil : fieldsOf [] = [] := rfl

theorem flatten_extendFirst (c : Char) (fields : List (List Char)) :
    (extendFirst c fields).flatten = c :: fields.flatten := by
  cases fields <;> simp [extendFirst]

/-! ## Separators -/

theorem isSeparator_of_isBlank {c : Char} (h : Text.isBlank c = true) : isSeparator c = true := by
  simp [isSeparator, Text.isWhiteSpace_of_isBlank h]

theorem isSeparator_of_isAlphanum {c : Char} (h : c.isAlphanum = true) : isSeparator c = false := by
  have hmark : ∀ d : Char, d.isAlphanum = false → c ≠ d := by
    rintro _ hd rfl
    simp [h] at hd
  simp [isSeparator, Text.isWhiteSpace_of_isAlphanum h, hmark '(' (by decide), hmark ')' (by decide),
    hmark ',' (by decide)]

theorem fieldsOf_separator {c : Char} (h : isSeparator c = true) (text : List Char) :
    fieldsOf (c :: text) = fieldsOf text := by
  simp [fieldsOf, h]

theorem fieldsOf_separators {seps : List Char} (h : ∀ c ∈ seps, isSeparator c = true) (text : List Char) :
    fieldsOf (seps ++ text) = fieldsOf text := by
  induction seps with
  | nil => rfl
  | cons c seps ih =>
    rw [List.cons_append, fieldsOf_separator (h c (by simp)), ih fun d hd => h d (by simp [hd])]

theorem fieldsOf_skipSeparators (text : List Char) : fieldsOf (skipSeparators text) = fieldsOf text := by
  have hsplit : text.takeWhile isSeparator ++ skipSeparators text = text := List.takeWhile_append_dropWhile
  rw [← fieldsOf_separators (fun c hc => List.mem_takeWhile_imp hc) (skipSeparators text), hsplit]

/-! ## One field after the other -/

theorem fieldsOf_field {first : Char} {rest : List Char} (hfirst : isSeparator first = false)
    (hrest : ∀ c ∈ rest, c.isAlphanum = true) {text : List Char} (hstop : continues text = false) :
    fieldsOf (first :: rest ++ text) = (first :: rest) :: fieldsOf text := by
  induction rest generalizing first with
  | nil => simp [fieldsOf, hfirst, hstop]
  | cons d rest ih =>
    have hd : d.isAlphanum = true := hrest d (by simp)
    have hopened := ih (isSeparator_of_isAlphanum hd) fun c hc => hrest c (by simp [hc])
    rw [List.cons_append, fieldsOf, hopened]
    simp [hfirst, continues, hd, extendFirst]

theorem continues_dropWhile (text : List Char) : continues (text.dropWhile Char.isAlphanum) = false := by
  have hhead := List.head?_dropWhile_not Char.isAlphanum text
  unfold continues
  cases h : (text.dropWhile Char.isAlphanum).head? with
  | none => rfl
  | some c => simpa [h] using hhead

theorem fieldsOf_lexField {start : Char} (h : isSeparator start = false) (text : List Char) :
    fieldsOf (start :: text) = (lexField start text).1 :: fieldsOf (lexField start text).2 := by
  have hrest : ∀ c ∈ text.takeWhile Char.isAlphanum, c.isAlphanum = true :=
    fun c hc => List.mem_takeWhile_imp hc
  have hfield := fieldsOf_field h hrest (continues_dropWhile text)
  rwa [List.cons_append, List.takeWhile_append_dropWhile] at hfield

theorem lexFields_eq {limit : Nat} {text : List Char} (h : text.length ≤ limit) :
    lexFields limit text = fieldsOf text := by
  induction limit generalizing text with
  | zero =>
    rw [List.length_eq_zero_iff.mp (Nat.le_zero.mp h)]
    rfl
  | succ limit ih =>
    have hskipped := List.length_dropWhile_le isSeparator text
    rw [← fieldsOf_skipSeparators, lexFields, nextField?]
    cases hstart : skipSeparators text with
    | nil => rfl
    | cons start rest =>
      have hfirst : isSeparator start = false := by
        have hhead := List.head?_dropWhile_not isSeparator text
        rw [← skipSeparators, hstart] at hhead
        exact hhead
      have hshorter := List.length_dropWhile_le Char.isAlphanum rest
      rw [← skipSeparators, hstart, List.length_cons] at hskipped
      rw [fieldsOf_lexField hfirst]
      exact congrArg _ (ih (show (rest.dropWhile Char.isAlphanum).length ≤ limit by omega))

theorem fields_eq (block : String) : fields block = (fieldsOf block.toList).map String.ofList := by
  rw [fields, lexFields_eq le_rfl]

end SchemaShell.Schema
