import SchemaShell.Proofs.Schema.Case
import SchemaShell.Proofs.Text.Lowering

/-!
# The conversion of a column

The four words of a column may be any texts. They make a column just when the type is a word for a type in
some mixture of capitals and small letters of ASCII and the size is a numeral below 2^64, and then the
column holds what they say.
-/

namespace SchemaShell.Schema

open Text

variable {name type size default : String}

/-! ## Types -/

namespace ValueType

theorem small_name (type : ValueType) : Small type.name.toList := by
  cases type <;> decide

theorem ofWord?_eq_some_iff_lowerCase {word : String} {lowered : List Char}
    (h : LowerCase word.toList lowered) (type : ValueType) :
    ofWord? word = some type ↔ lowered = type.name.toList := by
  rw [ofWord?_eq_some_iff_lower, h.eq_iff type.small_name, (lowerCase_lower _).eq_iff type.small_name]

theorem ofWord?_eq_some_iff_sameLetters {word : String} {type : ValueType} :
    ofWord? word = some type ↔ SameLetters word type.name := by
  rw [ofWord?_eq_some_iff_lower, (lowerCase_lower _).eq_iff type.small_name]
  exact Iff.rfl

theorem ofWord?_eq_none {word : String} {c : Char} (hc : c ∈ word.toList) (h : 128 ≤ c.toNat) :
    ofWord? word = none := by
  rw [Option.eq_none_iff_forall_ne_some]
  intro type htype
  have hletters := ofWord?_eq_some_iff_sameLetters.mp htype
  have hlt := Recased.toNat_lt_of_small hletters type.small_name hc
  omega

end ValueType

/-! ## Columns -/

/-- The column holds what the four words say. -/
structure Converts (name type size default : String) (column : Column) : Prop where
  name : column.name = name
  type : SameLetters type column.type.name
  size : Numeral size.toList column.size.toNat
  default : column.default = default

theorem buildColumn_eq_ok_iff_converts {column : Column} :
    buildColumn name type size default = .ok column ↔ Converts name type size default column := by
  rw [buildColumn_eq_ok_iff]
  simp only [ValueType.ofWord?_eq_some_iff_sameLetters, numeral?_eq_some_iff_numeral]
  constructor
  · rintro ⟨t, n, htype, hsize, rfl⟩
    exact ⟨rfl, htype, hsize, rfl⟩
  · rintro ⟨hname, htype, hsize, hdefault⟩
    exact ⟨column.type, column.size, htype, hsize, by rw [← hname, ← hdefault]⟩

theorem exists_buildColumn_iff :
    (∃ column, buildColumn name type size default = .ok column) ↔
      (SameLetters type "number" ∨ SameLetters type "string") ∧ ∃ n < UInt64.size, Numeral size.toList n := by
  rw [← exists_numeral?_iff]
  simp only [buildColumn_eq_ok_iff]
  constructor
  · rintro ⟨column, t, n, htype, hsize, -⟩
    refine ⟨?_, n, hsize⟩
    rw [ValueType.ofWord?_eq_some_iff_sameLetters] at htype
    cases t with
    | number => exact .inl htype
    | string => exact .inr htype
  · rintro ⟨htype | htype, n, hsize⟩
    · exact ⟨_, .number, n, ValueType.ofWord?_eq_some_iff_sameLetters.mpr htype, hsize, rfl⟩
    · exact ⟨_, .string, n, ValueType.ofWord?_eq_some_iff_sameLetters.mpr htype, hsize, rfl⟩

/-- Four words make the column that they describe, and they make one if the type is `number` or `string`
up to letter case in ASCII and the size is below 2^64. A type with a character outside ASCII is refused,
though its lower case may be within it, and what else a table of lower cases holds does not matter. -/
theorem columns_convert_exactly :
    (∀ (name type size default : String) (column : Column),
      buildColumn name type size default = .ok column ↔ Converts name type size default column) ∧
    (∀ name type size default : String,
      (∃ column, buildColumn name type size default = .ok column) ↔
        (SameLetters type "number" ∨ SameLetters type "string") ∧ ∃ n < UInt64.size, Numeral size.toList n) ∧
    (∀ name type size default : String, (∃ c ∈ type.toList, 128 ≤ c.toNat) →
      buildColumn name type size default = .error (.unknownType type)) ∧
    ∀ (word : String) (lowered : List Char), LowerCase word.toList lowered → ∀ type : ValueType,
      ValueType.ofWord? word = some type ↔ lowered = type.name.toList := by
  refine ⟨?_, ?_, ?_, ?_⟩
  · intro name type size default column
    exact buildColumn_eq_ok_iff_converts
  · intro name type size default
    exact exists_buildColumn_iff
  · rintro name type size default ⟨c, hc, houtside⟩
    unfold buildColumn
    rw [ValueType.ofWord?_eq_none hc houtside]
  · intro word lowered h type
    exact ValueType.ofWord?_eq_some_iff_lowerCase h type

/-- The largest size, a letter that is no letter of ASCII until it is lowered, and a capital with two small
letters. -/
theorem columns_convert_exactly_at_limits :
    buildColumn "a" "nUmBeR" "+00018446744073709551615" "0" =
        .ok ⟨"a", .number, 18446744073709551615, "0"⟩ ∧
      (∃ c ∈ "str\u0130ng".toList, 128 ≤ c.toNat) ∧
      buildColumn "a" "str\u0130ng" "1" "0" = .error (.unknownType "str\u0130ng") ∧
      LowerCase "NR\u03A3".toList "nr\u03C2".toList ∧ ValueType.ofWord? "NR\u03A3" ≠ some .number := by
  obtain ⟨hconverts, -, houtside, hlowered⟩ := columns_convert_exactly
  have hsize : Numeral ('+' :: "00018446744073709551615".toList) 18446744073709551615 :=
    .signed (by decide) (List.all_eq_true.mp rfl)
  have hdotted : ∃ c ∈ "str\u0130ng".toList, 128 ≤ c.toNat := ⟨'\u0130', by decide, by decide⟩
  have hsigma : LowerCase "NR\u03A3".toList "nr\u03C2".toList := by
    refine ⟨[['n'], ['r'], ['\u03C2']], .cons (.ascii (by decide)) (.cons (.ascii (by decide)) ?_), rfl⟩
    exact .cons (.other (by decide) (by decide) (by decide) (by decide) (List.forall_mem_singleton.mpr rfl)) .nil
  refine ⟨(hconverts _ _ _ _ _).mpr ⟨rfl, by decide, hsize, rfl⟩, hdotted, houtside _ _ _ _ hdotted, hsigma, ?_⟩
  rw [ne_eq, hlowered _ _ hsigma .number]
  decide

/-- One more is too large. -/
example : buildColumn "a" "number" "00018446744073709551616" "0" =
    .error (.invalidSize "00018446744073709551616") := rfl

end SchemaShell.Schema
