import SchemaShell.Proofs.Schema.Cuts

/-!
# Record by record

What building a table comes to, for any block: fields that make up no whole number of records are refused
first, then the first record in order that has a fault, and otherwise every record is a column.
-/

namespace SchemaShell.Schema

/-! ## What the words of a block say -/

/-- The four words of record `i`. -/
structure RecordAt (words : List String) (i : Nat) (name type size default : String) : Prop where
  name : words[4 * i]? = some name
  type : words[4 * i + 1]? = some type
  size : words[4 * i + 2]? = some size
  default : words[4 * i + 3]? = some default

/-- What record `i` comes to. A bad type is reported whatever the size is. -/
inductive Judged (words : List String) (i : Nat) : Except BuildError Column → Prop where
  | column {name type size default : String} {valueType : ValueType} {n : UInt64}
      (record : RecordAt words i name type size default)
      (goodType : ValueType.ofWord? type = some valueType)
      (goodSize : Text.numeral? size.toList = some n) :
    Judged words i (.ok ⟨name, valueType, n, default⟩)
  | unknownType {name type size default : String} (record : RecordAt words i name type size default)
      (badType : ValueType.ofWord? type = none) :
    Judged words i (.error (.unknownType type))
  | invalidSize {name type size default : String} {valueType : ValueType}
      (record : RecordAt words i name type size default)
      (goodType : ValueType.ofWord? type = some valueType)
      (badSize : Text.numeral? size.toList = none) :
    Judged words i (.error (.invalidSize size))

structure AllColumns (words : List String) (columns : List Column) : Prop where
  length_eq : columns.length = words.length / 4
  judged : ∀ i (h : i < columns.length), Judged words i (.ok columns[i])

/-- Record `i` has a fault, and no record before it has. -/
structure FirstFault (words : List String) (i : Nat) (error : BuildError) : Prop where
  before : ∀ j < i, ∃ column, Judged words j (.ok column)
  judged : Judged words i (.error error)

/-- What the words come to as a table. -/
inductive Verdict (name : String) (words : List String) : Except BuildError Table → Prop where
  | incomplete (partly : words.length % 4 ≠ 0) :
    Verdict name words (.error (.incompleteColumn name (words.length % 4)))
  | refused {i : Nat} {error : BuildError} (whole : words.length % 4 = 0)
      (fault : FirstFault words i error) :
    Verdict name words (.error error)
  | built {columns : List Column} (whole : words.length % 4 = 0) (all : AllColumns words columns) :
    Verdict name words (.ok ⟨name, columns⟩)

variable {words front : List String} {i : Nat} {name type size default : String}

/-! ## One record -/

theorem recordAt_single (name type size default : String) :
    RecordAt [name, type, size, default] 0 name type size default :=
  ⟨rfl, rfl, rfl, rfl⟩

theorem RecordAt.unique {name' type' size' default' : String} (h : RecordAt words i name type size default)
    (h' : RecordAt words i name' type' size' default') :
    name = name' ∧ type = type' ∧ size = size' ∧ default = default' :=
  ⟨Option.some.inj (h.name.symm.trans h'.name), Option.some.inj (h.type.symm.trans h'.type),
    Option.some.inj (h.size.symm.trans h'.size), Option.some.inj (h.default.symm.trans h'.default)⟩

theorem RecordAt.of_front (h : RecordAt front i name type size default) (words : List String) :
    RecordAt (front ++ words) i name type size default := by
  have hkeep : ∀ (k : Nat) (word : String), front[k]? = some word → (front ++ words)[k]? = some word := by
    intro k word hword
    rw [List.getElem?_append_left (List.getElem?_eq_some_iff.mp hword).1, hword]
  exact ⟨hkeep _ _ h.name, hkeep _ _ h.type, hkeep _ _ h.size, hkeep _ _ h.default⟩

theorem RecordAt.behind (h : RecordAt words i name type size default) (whole : front.length % 4 = 0) :
    RecordAt (front ++ words) (i + front.length / 4) name type size default := by
  have hshift : ∀ k, (front ++ words)[4 * (i + front.length / 4) + k]? = words[4 * i + k]? := by
    intro k
    have hplace : 4 * (i + front.length / 4) + k = front.length + (4 * i + k) := by omega
    rw [hplace, List.getElem?_append_right (Nat.le_add_right _ _), Nat.add_sub_cancel_left]
  exact ⟨(hshift 0).trans h.name, (hshift 1).trans h.type, (hshift 2).trans h.size,
    (hshift 3).trans h.default⟩

theorem RecordAt.judged (h : RecordAt words i name type size default) :
    Judged words i (buildColumn name type size default) := by
  unfold buildColumn
  split
  · next badType => exact .unknownType h badType
  · next goodType badSize => exact .invalidSize h goodType badSize
  · next goodType goodSize => exact .column h goodType goodSize

section

variable {result : Except BuildError Column}

theorem Judged.exists_record (h : Judged words i result) :
    ∃ name type size default, RecordAt words i name type size default ∧
      buildColumn name type size default = result := by
  cases h with
  | column record goodType goodSize => exact ⟨_, _, _, _, record, by simp [buildColumn, goodType, goodSize]⟩
  | unknownType record badType => exact ⟨_, _, _, _, record, by simp [buildColumn, badType]⟩
  | invalidSize record goodType badSize => exact ⟨_, _, _, _, record, by simp [buildColumn, goodType, badSize]⟩

theorem Judged.unique {second : Except BuildError Column} (h : Judged words i result)
    (h' : Judged words i second) : result = second := by
  obtain ⟨_, _, _, _, hrecord, rfl⟩ := h.exists_record
  obtain ⟨_, _, _, _, hrecord', rfl⟩ := h'.exists_record
  obtain ⟨rfl, rfl, rfl, rfl⟩ := hrecord.unique hrecord'
  rfl

theorem Judged.of_front (h : Judged front i result) (words : List String) :
    Judged (front ++ words) i result := by
  obtain ⟨_, _, _, _, hrecord, rfl⟩ := h.exists_record
  exact (hrecord.of_front words).judged

theorem Judged.behind (h : Judged words i result) (whole : front.length % 4 = 0) :
    Judged (front ++ words) (i + front.length / 4) result := by
  obtain ⟨_, _, _, _, hrecord, rfl⟩ := h.exists_record
  exact (hrecord.behind whole).judged

theorem Judged.lt_length (h : Judged words i result) : 4 * i + 3 < words.length := by
  obtain ⟨_, _, _, _, hrecord, -⟩ := h.exists_record
  exact (List.getElem?_eq_some_iff.mp hrecord.default).1

end

/-! ## All records -/

section

variable {columns more : List Column} {error : BuildError}

theorem AllColumns.append (h : AllColumns front columns) (whole : front.length % 4 = 0)
    (hmore : AllColumns words more) : AllColumns (front ++ words) (columns ++ more) := by
  have hlength := h.length_eq
  have hlater := hmore.length_eq
  constructor
  · rw [List.length_append, List.length_append]
    omega
  · intro i hi
    by_cases hfront : i < columns.length
    · rw [List.getElem_append_left hfront]
      exact (h.judged i hfront).of_front words
    · have hk : i - columns.length < more.length := by
        rw [List.length_append] at hi
        omega
      have hbehind := (hmore.judged _ hk).behind whole
      rw [← hlength, Nat.sub_add_cancel (Nat.le_of_not_lt hfront)] at hbehind
      rw [List.getElem_append_right (Nat.le_of_not_lt hfront)]
      exact hbehind

theorem FirstFault.of_front (h : FirstFault front i error) (words : List String) :
    FirstFault (front ++ words) i error := by
  refine ⟨?_, h.judged.of_front words⟩
  intro j hj
  obtain ⟨column, hcolumn⟩ := h.before j hj
  exact ⟨column, hcolumn.of_front words⟩

theorem FirstFault.behind (h : FirstFault words i error) (whole : front.length % 4 = 0)
    (hfront : AllColumns front columns) : FirstFault (front ++ words) (i + front.length / 4) error := by
  refine ⟨?_, h.judged.behind whole⟩
  intro j hj
  by_cases hlt : j < columns.length
  · exact ⟨columns[j], (hfront.judged j hlt).of_front words⟩
  · have hlength := hfront.length_eq
    obtain ⟨column, hcolumn⟩ := h.before (j - columns.length) (by omega)
    have hbehind := hcolumn.behind whole
    rw [← hlength, Nat.sub_add_cancel (Nat.le_of_not_lt hlt)] at hbehind
    exact ⟨column, hbehind⟩

theorem AllColumns.unique (h : AllColumns words columns) (h' : AllColumns words more) : columns = more := by
  apply List.ext_getElem
  · rw [h.length_eq, h'.length_eq]
  · intro i hi hi'
    exact Except.ok.inj ((h.judged i hi).unique (h'.judged i hi'))

theorem FirstFault.unique {j : Nat} {second : BuildError} (h : FirstFault words i error)
    (h' : FirstFault words j second) : error = second := by
  rcases Nat.lt_trichotomy i j with hij | rfl | hij
  · obtain ⟨column, hcolumn⟩ := h'.before i hij
    cases hcolumn.unique h.judged
  · exact Except.error.inj (h.judged.unique h'.judged)
  · obtain ⟨column, hcolumn⟩ := h.before j hij
    cases hcolumn.unique h'.judged

theorem AllColumns.not_firstFault (h : AllColumns words columns) : ¬ FirstFault words i error := by
  intro hfault
  have hlt := hfault.judged.lt_length
  have hi : i < columns.length := by
    rw [h.length_eq]
    omega
  cases (h.judged i hi).unique hfault.judged

end

theorem eq_nil_of_whole (whole : words.length % 4 = 0) (hfew : ∀ a b c d more, words ≠ a :: b :: c :: d :: more) :
    words = [] := by
  rcases words with _ | ⟨a, _ | ⟨b, _ | ⟨c, _ | ⟨d, more⟩⟩⟩⟩
  · rfl
  · simp at whole
  · simp at whole
  · simp at whole
  · exact absurd rfl (hfew a b c d more)

theorem buildColumns_judged (whole : words.length % 4 = 0) :
    (∃ columns, buildColumns words = .ok columns ∧ AllColumns words columns) ∨
      ∃ i error, buildColumns words = .error error ∧ FirstFault words i error := by
  induction words using buildColumns.induct with
  | case1 name type size default words ih =>
    have hrest : words.length % 4 = 0 := by
      simp only [List.length_cons] at whole
      omega
    have hone : [name, type, size, default].length % 4 = 0 := by simp
    have hfirst := (recordAt_single name type size default).judged
    unfold buildColumns
    cases hcolumn : buildColumn name type size default with
    | error error =>
      rw [hcolumn] at hfirst
      have hfault : FirstFault [name, type, size, default] 0 error := ⟨by simp, hfirst⟩
      exact Or.inr ⟨0, error, rfl, hfault.of_front words⟩
    | ok column =>
      rw [hcolumn] at hfirst
      have hcolumn : AllColumns [name, type, size, default] [column] := by
        refine ⟨by simp, ?_⟩
        intro i hi
        obtain rfl : i = 0 := Nat.lt_one_iff.mp hi
        exact hfirst
      rcases ih hrest with ⟨columns, hcolumns, hall⟩ | ⟨i, error, herror, hfault⟩
      · rw [hcolumns]
        exact Or.inl ⟨column :: columns, rfl, hcolumn.append hone hall⟩
      · rw [herror]
        exact Or.inr ⟨_, error, rfl, hfault.behind hone hcolumn⟩
  | case2 words hfew =>
    obtain rfl := eq_nil_of_whole whole hfew
    exact Or.inl ⟨[], rfl, rfl, by simp⟩

/-! ## The whole block -/

theorem verdict_build (name block : String) : Verdict name (fields block) (build name block) := by
  unfold build fieldsPerColumn
  by_cases whole : (fields block).length % 4 = 0
  · simp only [whole, if_true]
    rcases buildColumns_judged whole with ⟨columns, hcolumns, hall⟩ | ⟨i, error, herror, hfault⟩
    · rw [hcolumns]
      exact .built whole hall
    · rw [herror]
      exact .refused whole hfault
  · simp only [whole, if_false]
    exact .incomplete whole

theorem Verdict.unique {first second : Except BuildError Table} (h : Verdict name words first)
    (h' : Verdict name words second) : first = second := by
  cases h with
  | incomplete partly =>
    cases h' with
    | incomplete => rfl
    | refused whole => exact absurd whole partly
    | built whole => exact absurd whole partly
  | refused whole fault =>
    cases h' with
    | incomplete partly => exact absurd whole partly
    | refused _ fault' => rw [fault.unique fault']
    | built _ all => exact absurd fault all.not_firstFault
  | built whole all =>
    cases h' with
    | incomplete partly => exact absurd whole partly
    | refused _ fault => exact absurd fault all.not_firstFault
    | built _ all' => rw [all.unique all']

theorem build_eq_iff {block : String} {result : Except BuildError Table} :
    build name block = result ↔ Verdict name (fields block) result := by
  constructor
  · rintro rfl
    exact verdict_build name block
  · exact (verdict_build name block).unique

theorem fields_append_separator {s : Char} (hs : isSeparator s = true) (first second : String) :
    fields (first ++ String.singleton s ++ second) = fields first ++ fields second := by
  have htext : (first ++ String.singleton s ++ second).toList = first.toList ++ s :: second.toList := by
    simp
  simp only [fields_eq, htext, fieldsOf_append_separator hs, List.map_append]

theorem Verdict.append {table other : Table} {second : String} (h : Verdict name front (.ok table))
    (h' : Verdict second words (.ok other)) (joined : String) :
    Verdict joined (front ++ words) (.ok ⟨joined, table.columns ++ other.columns⟩) := by
  cases h with
  | built whole all =>
    cases h' with
    | built whole' all' =>
      refine .built ?_ (all.append whole all')
      rw [List.length_append]
      omega

/-- Any block is judged record by record. When its fields do not make up whole records, the number of
those left over is reported before any field is looked at. Otherwise the first record with a fault refuses
the block, for its type rather than for its size, and without a fault every record is a column. Two blocks
that build, with a separator between them, build the columns of both. -/
theorem build_judges_records_in_order :
    (∀ name block result, build name block = result ↔ Verdict name (fields block) result) ∧
    ∀ name first second (table other : Table) (s : Char),
      build name first = .ok table → build name second = .ok other → isSeparator s = true →
      build name (first ++ String.singleton s ++ second) = .ok ⟨name, table.columns ++ other.columns⟩ := by
  refine ⟨fun _ _ _ => build_eq_iff, ?_⟩
  intro name first second table other s hfirst hsecond hs
  have hverdict := (build_eq_iff.mp hfirst).append (build_eq_iff.mp hsecond) name
  rw [← fields_append_separator hs] at hverdict
  exact build_eq_iff.mpr hverdict

theorem build_judges_records_in_order_of_two :
    let table : Table := ⟨"t", [⟨"a", .number, 1, "0"⟩]⟩
    let other : Table := ⟨"t", [⟨"_b", .string, 7, "é"⟩]⟩
    build "t" "(a,number,1,0)" = .ok table ∧ build "t" "_b sTrinG +007 é" = .ok other ∧
      isSeparator '\u3000' = true ∧
      build "t" ("(a,number,1,0)" ++ String.singleton '\u3000' ++ "_b sTrinG +007 é") =
        .ok ⟨"t", table.columns ++ other.columns⟩ := by
  intro table other
  have hfirst : build "t" "(a,number,1,0)" = .ok table := rfl
  have hsecond : build "t" "_b sTrinG +007 é" = .ok other := rfl
  have hs : isSeparator '\u3000' = true := rfl
  refine ⟨hfirst, hsecond, hs, ?_⟩
  exact build_judges_records_in_order.2 "t" _ _ table other '\u3000' hfirst hsecond hs

/-- The second record has both faults, and the third one comes too late. -/
example : build "t" "(a,number,1,0)(b,word,ten,0)(c,number,ten,0)" = .error (.unknownType "word") := rfl

end SchemaShell.Schema
