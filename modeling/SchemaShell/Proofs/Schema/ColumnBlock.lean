import Mathlib.Data.List.Basic
import Mathlib.Data.List.Forall2
import SchemaShell.Proofs.Command.Written
import SchemaShell.Proofs.Schema.Lexer
import SchemaShell.Proofs.Text.Numeral
import SchemaShell.Schema.Build

/-!
# Fields and columns of written records

A block of written column records falls into the tokens of its records, four for each. Building its
columns goes record by record and can be refused by a type or by a size only.
-/

namespace SchemaShell.Schema

open Command.Written

/-! ## Fields -/

theorem fieldsOf_gap (gap : Gap) (text : List Char) : fieldsOf (gap ++ text) = fieldsOf text :=
  fieldsOf_separators (fun c hc => isSeparator_of_isBlank (gap.2 c hc)) text

theorem fieldsOf_word {word : List Char} (h : Word word) {text : List Char}
    (hstop : continues text = false) : fieldsOf (word ++ text) = word :: fieldsOf text := by
  obtain ⟨hne, hall⟩ := h
  obtain ⟨c, rest, rfl⟩ := List.exists_cons_of_ne_nil hne
  exact fieldsOf_field (isSeparator_of_isAlphanum (hall c (by simp))) (fun d hd => hall d (by simp [hd])) hstop

theorem continues_gap_append {gap : Gap} {text : List Char} (h : continues text = false) :
    continues (gap ++ text) = false := by
  cases hg : gap.val with
  | nil => simpa using h
  | cons c more =>
    have hblank := gap.2 c (by simp [hg])
    refine Bool.eq_false_iff.mpr fun hc => ?_
    simp only [continues, List.cons_append, List.head?_cons, Option.any_some] at hc
    simp [Text.isBlank_of_isAlphanum hc] at hblank

theorem fieldsOf_spaced {token : List Char → Prop} (hword : ∀ text, token text → Word text)
    (s : Spaced token) {text : List Char} (hstop : continues text = false) :
    fieldsOf (s.whole ++ text) = s.text :: fieldsOf text := by
  rw [Spaced.whole, List.append_assoc, List.append_assoc, fieldsOf_gap,
    fieldsOf_word (hword _ s.isToken) (continues_gap_append hstop), fieldsOf_gap]

theorem fieldsOf_record (r : ColumnRecord) (text : List Char) :
    fieldsOf (r.text ++ text) = r.tokens ++ fieldsOf text := by
  have hopening : isSeparator '(' = true := rfl
  have hclosing : isSeparator ')' = true := rfl
  have hmark : isSeparator ',' = true := rfl
  have hcomma : fieldsOf (ColumnRecord.commaText r.comma? ++ text) = fieldsOf text := by
    cases r.comma? with
    | none => rfl
    | some gap =>
      rw [ColumnRecord.commaText, List.cons_append, fieldsOf_separator hmark, fieldsOf_gap]
  simp only [ColumnRecord.text, List.cons_append, List.append_assoc]
  rw [fieldsOf_separator hopening, fieldsOf_spaced (fun _ => Identifier.word) r.name rfl,
    fieldsOf_separator hmark, fieldsOf_spaced (fun _ => Letters.word) r.type rfl,
    fieldsOf_separator hmark, fieldsOf_spaced (fun _ => Digits.word) r.size rfl,
    fieldsOf_separator hmark, fieldsOf_spaced (fun _ => id) r.default rfl,
    fieldsOf_separator hclosing, fieldsOf_gap, hcomma]
  rfl

theorem fieldsOf_records (rs : List ColumnRecord) :
    fieldsOf (rs.flatMap ColumnRecord.text) = rs.flatMap ColumnRecord.tokens := by
  induction rs with
  | nil => rfl
  | cons r rs ih => rw [List.flatMap_cons, fieldsOf_record, ih, List.flatMap_cons]

theorem fields_records (rs : List ColumnRecord) :
    fields (blockOf rs) = rs.flatMap fun r => r.tokens.map String.ofList := by
  rw [fields_eq, blockOf, String.toList_ofList, fieldsOf_records, List.map_flatMap]

/-! ## Types and sizes -/

/-- The word names the type, in any mixture of capitals and small letters. -/
def ValueType.IsNamedBy (type : ValueType) (word : List Char) : Prop :=
  word.map Char.toLower = type.name.toList

theorem lower_of_letters {word : List Char} (h : Letters word) : Text.lower word = word.map Char.toLower := by
  have hchar : ∀ c ∈ word, Text.lowerChar c = [c.toLower] := by
    intro c hc
    have halpha := (Text.isAlpha_iff c).mp (h.2 c hc)
    have hne : ∀ d : Char, 128 ≤ d.toNat → c ≠ d := by
      rintro _ hd rfl
      omega
    simp [Text.lowerChar, hne '\u212A' (by decide), hne '\u0130' (by decide)]
  rw [Text.lower, List.flatMap_congr hchar]
  exact List.map_eq_flatMap.symm

theorem ofWord?_eq_some_iff {word : List Char} (h : Letters word) {type : ValueType} :
    ValueType.ofWord? (String.ofList word) = some type ↔ type.IsNamedBy word := by
  rw [ValueType.ofWord?_eq_some_iff_lower, String.toList_ofList, lower_of_letters h]
  exact Iff.rfl

theorem numeral?_of_digits {digits : List Char} (h : Digits digits) :
    Text.numeral? digits =
      if Text.decimalValue digits < UInt64.size then some (UInt64.ofNat (Text.decimalValue digits)) else none := by
  have hall : digits.all Char.isDigit = true := List.all_eq_true.mpr h.2
  unfold Text.numeral?
  rw [Text.withoutPlus_of_digits h.2, if_neg h.1]
  split
  · next hlt => exact Text.readDigits?_eq_some_iff.mpr ⟨⟨hall, hlt⟩, rfl⟩
  · next hlt =>
    rw [Option.eq_none_iff_forall_ne_some]
    intro n hn
    exact hlt (Text.readDigits?_eq_some_iff.mp hn).1.2

/-! ## Columns of records -/

/-- The column has the name, type, size and default that the record writes. -/
structure Describes (r : ColumnRecord) (column : Column) : Prop where
  name : column.name = String.ofList r.name.text
  type : column.type.IsNamedBy r.type.text
  size : column.size.toNat = Text.decimalValue r.size.text
  default : column.default = String.ofList r.default.text

/-- The record is refused for its type, or for a size of 2^64 or more. -/
inductive Refuses (r : ColumnRecord) : BuildError → Prop where
  | type (h : ∀ type : ValueType, ¬ type.IsNamedBy r.type.text) :
    Refuses r (.unknownType (String.ofList r.type.text))
  | size (h : UInt64.size ≤ Text.decimalValue r.size.text) : Refuses r (.invalidSize (String.ofList r.size.text))

theorem Describes.unique {r : ColumnRecord} {column other : Column} (h : Describes r column)
    (ho : Describes r other) : column = other := by
  have htype : column.type.name.toList = other.type.name.toList := h.type.symm.trans ho.type
  have hsize : column.size = other.size := UInt64.toNat_inj.mp (h.size.trans ho.size.symm)
  have hname := h.name.trans ho.name.symm
  have hdefault := h.default.trans ho.default.symm
  rcases column with ⟨name, _ | _, size, default⟩ <;> rcases other with ⟨name', _ | _, size', default'⟩ <;>
    simp_all [ValueType.name]

theorem Describes.not_refuses {r : ColumnRecord} {column : Column} (h : Describes r column)
    {error : BuildError} : ¬ Refuses r error := by
  rintro (hnone | hlarge)
  · exact hnone column.type h.type
  · have hsize := h.size
    have hlt := column.size.toNat_lt_size
    omega

theorem buildColumn_record (r : ColumnRecord) :
    (∃ column, buildColumn (String.ofList r.name.text) (String.ofList r.type.text)
      (String.ofList r.size.text) (String.ofList r.default.text) = .ok column ∧ Describes r column) ∨
    ∃ error, buildColumn (String.ofList r.name.text) (String.ofList r.type.text)
      (String.ofList r.size.text) (String.ofList r.default.text) = .error error ∧ Refuses r error := by
  have hnumeral := numeral?_of_digits r.size.isToken
  cases htype : ValueType.ofWord? (String.ofList r.type.text) with
  | none =>
    refine Or.inr ⟨_, by simp [buildColumn, htype], .type fun type htype' => ?_⟩
    rw [(ofWord?_eq_some_iff r.type.isToken).mpr htype'] at htype
    simp at htype
  | some type =>
    have hnamed := (ofWord?_eq_some_iff r.type.isToken).mp htype
    by_cases hsize : Text.decimalValue r.size.text < UInt64.size
    · rw [if_pos hsize] at hnumeral
      let column : Column :=
        { name := String.ofList r.name.text, type := type
          size := UInt64.ofNat (Text.decimalValue r.size.text), default := String.ofList r.default.text }
      have hbuild : buildColumn (String.ofList r.name.text) (String.ofList r.type.text)
          (String.ofList r.size.text) (String.ofList r.default.text) = .ok column := by
        simp only [buildColumn, htype, String.toList_ofList, hnumeral, column]
      exact Or.inl ⟨column, hbuild, rfl, hnamed, UInt64.toNat_ofNat_of_lt hsize, rfl⟩
    · rw [if_neg hsize] at hnumeral
      exact Or.inr ⟨_, by simp [buildColumn, htype, hnumeral], .size (by omega)⟩

theorem buildColumns_records (rs : List ColumnRecord) :
    (∃ columns, buildColumns (rs.flatMap fun r => r.tokens.map String.ofList) = .ok columns ∧
      List.Forall₂ Describes rs columns) ∨
    ∃ r ∈ rs, ∃ error, buildColumns (rs.flatMap fun r => r.tokens.map String.ofList) = .error error ∧
      Refuses r error := by
  induction rs with
  | nil => exact Or.inl ⟨[], rfl, .nil⟩
  | cons r rs ih =>
    simp only [List.flatMap_cons, ColumnRecord.tokens, List.map_cons, List.map_nil, List.cons_append,
      List.nil_append, buildColumns] at ih ⊢
    rcases buildColumn_record r with ⟨column, hcolumn, hr⟩ | ⟨error, herror, hr⟩
    · rcases ih with ⟨columns, hcolumns, hrs⟩ | ⟨r', hmem, error, herror, hr'⟩
      · exact Or.inl ⟨column :: columns, by simp [hcolumn, hcolumns, bind, Except.bind, pure, Except.pure],
          .cons hr hrs⟩
      · exact Or.inr ⟨r', List.mem_cons_of_mem r hmem, error,
          by simp [hcolumn, herror, bind, Except.bind], hr'⟩
    · exact Or.inr ⟨r, by simp, error, by simp [herror, bind, Except.bind], hr⟩

/-- Building a block of written records gives the columns they describe, or the fault of one of them. -/
theorem build_records (name : String) (rs : List ColumnRecord) :
    (∃ columns, build name (blockOf rs) = .ok ⟨name, columns⟩ ∧ List.Forall₂ Describes rs columns) ∨
    ∃ r ∈ rs, ∃ error, build name (blockOf rs) = .error error ∧ Refuses r error := by
  have hwhole : (rs.flatMap fun r => r.tokens.map String.ofList).length % fieldsPerColumn = 0 := by
    simp [List.length_flatMap, ColumnRecord.tokens, fieldsPerColumn]
  rw [build, fields_records]
  simp only [hwhole, if_true]
  rcases buildColumns_records rs with ⟨columns, hcolumns, hrs⟩ | ⟨r, hmem, error, herror, hr⟩
  · exact Or.inl ⟨columns, by simp [hcolumns, Except.map], hrs⟩
  · exact Or.inr ⟨r, hmem, error, by simp [herror, Except.map], hr⟩

theorem not_refuses_of_forall₂_describes {rs : List ColumnRecord} {columns : List Column}
    (h : List.Forall₂ Describes rs columns) {error : BuildError} : ∀ r ∈ rs, ¬ Refuses r error := by
  induction h with
  | nil => simp
  | cons hr _ ih =>
    intro r hmem
    rcases List.mem_cons.mp hmem with rfl | hmem
    · exact hr.not_refuses
    · exact ih r hmem

theorem build_of_describes {rs : List ColumnRecord} {columns : List Column} (name : String)
    (h : List.Forall₂ Describes rs columns) :
    build name (blockOf rs) = .ok ⟨name, columns⟩ := by
  rcases build_records name rs with ⟨others, hok, hothers⟩ | ⟨r, hr, error, -, hrefuses⟩
  · have hunique : Relator.RightUnique Describes := fun _ _ _ hfirst hsecond => hfirst.unique hsecond
    obtain rfl : others = columns := List.right_unique_forall₂' hunique hothers h
    exact hok
  · exact absurd hrefuses (not_refuses_of_forall₂_describes h r hr)

/-! ## Tables of records -/

/-- The column can be written as a record. -/
structure Column.WellFormed (column : Column) : Prop where
  name : Identifier column.name.toList
  default : Word column.default.toList

structure Table.WellFormed (table : Table) : Prop where
  name : Identifier table.name.toList
  columns_ne_nil : table.columns ≠ []
  columns : ∀ column ∈ table.columns, column.WellFormed

theorem Describes.wellFormed {r : ColumnRecord} {column : Column} (h : Describes r column) :
    column.WellFormed where
  name := by
    rw [h.name, String.toList_ofList]
    exact r.name.isToken
  default := by
    rw [h.default, String.toList_ofList]
    exact r.default.isToken

theorem wellFormed_of_forall₂_describes {rs : List ColumnRecord} {columns : List Column}
    (h : List.Forall₂ Describes rs columns) : ∀ column ∈ columns, column.WellFormed := by
  induction h with
  | nil => simp
  | cons hr _ ih =>
    intro column hcolumn
    rcases List.mem_cons.mp hcolumn with rfl | hcolumn
    · exact hr.wellFormed
    · exact ih column hcolumn

theorem wellFormed_of_build_records {name : List Char} {rs : List ColumnRecord} {table : Table}
    (hname : Identifier name) (hrs : rs ≠ [])
    (h : build (String.ofList name) (blockOf rs) = .ok table) :
    table.name = String.ofList name ∧ table.WellFormed := by
  rcases build_records (String.ofList name) rs with ⟨columns, hok, hall⟩ | ⟨r, -, error, herror, -⟩
  · obtain rfl : _ = table := Except.ok.inj (hok.symm.trans h)
    refine ⟨rfl, by simpa using hname, ?_, wellFormed_of_forall₂_describes hall⟩
    rintro rfl
    cases hall
    exact hrs rfl
  · simp [herror] at h

end SchemaShell.Schema
