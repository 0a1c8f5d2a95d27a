import SchemaShell.Proofs.Schema.Records

/-!
# Fields written out again

A separator between two texts keeps their fields apart, and nothing but separators is lost. So the fields
of a text can be written out with other separators around them, and these are the fields of the new text.
-/

namespace SchemaShell.Schema

/-- The text has nothing but separators. -/
def Separators (text : String) : Prop :=
  ∀ c ∈ text.toList, isSeparator c = true

instance (text : String) : Decidable (Separators text) :=
  List.decidableBAll _ text.toList

/-- The text can stand between two fields. -/
def IsGap (text : String) : Prop :=
  text ≠ "" ∧ Separators text

/-- Fields with a text behind each but the last, which is `gaps i` behind field `i`. -/
def spreadOut (gaps : Nat → String) : List String → String
  | [] => ""
  | [field] => field
  | field :: next :: fields => field ++ gaps 0 ++ spreadOut (fun i => gaps (i + 1)) (next :: fields)

example : spreadOut (fun i => if i = 0 then ", " else ")(") ["a", "-5", "_b"] = "a, -5)(_b" := by decide

variable {text : String}

/-! ## Fields and gaps -/

theorem fields_append {first second : String} (h : continues second.toList = false) :
    fields (first ++ second) = fields first ++ fields second := by
  simp only [fields_eq, String.toList_append, fieldsOf_append h, List.map_append]

theorem fields_separators (h : Separators text) (second : String) :
    fields (text ++ second) = fields second := by
  rw [fields_eq, fields_eq, String.toList_append, fieldsOf_separators h]

theorem Separators.fields_eq_nil (h : Separators text) : fields text = [] := by
  have hnone := fields_separators h ""
  rwa [String.append_empty] at hnone

theorem continues_of_head? {chars : List Char} (h : ∀ c ∈ chars.head?, isSeparator c = true) :
    continues chars = false := by
  cases chars with
  | nil => rfl
  | cons c rest => exact continues_cons_of_separator (h c rfl) rest

theorem Separators.continues_eq_false (h : Separators text) : continues text.toList = false :=
  continues_of_head? fun c hc => h c (List.mem_of_mem_head? hc)

theorem IsGap.continues_append (h : IsGap text) (second : String) :
    continues (text ++ second).toList = false := by
  refine continues_of_head? fun c hc => ?_
  rw [String.toList_append, List.head?_append_of_ne_nil _ (by simpa using h.1)] at hc
  exact h.2 c (List.mem_of_mem_head? hc)

theorem fields_fieldForm {field : String} (h : FieldForm field.toList) : fields field = [field] := by
  rw [fields_eq]
  cases hchars : field.toList with
  | nil =>
    rw [hchars] at h
    cases h
  | cons first rest =>
    rw [hchars] at h
    have hone := fieldsOf_field h.1 h.2 (rfl : continues [] = false)
    rw [List.append_nil] at hone
    rw [hone, fieldsOf_nil, List.map_singleton, ← hchars, String.ofList_toList]

theorem fieldForm_of_mem_fields {field : String} (h : field ∈ fields text) : FieldForm field.toList := by
  rw [fields_eq] at h
  obtain ⟨chars, hchars, rfl⟩ := List.mem_map.mp h
  rw [String.toList_ofList]
  exact fieldForm_of_mem chars hchars

/-! ## Writing out -/

theorem fields_spreadOut {gaps : Nat → String} {words : List String}
    (hwords : ∀ word ∈ words, FieldForm word.toList)
    (hgaps : ∀ i, i + 1 < words.length → IsGap (gaps i)) :
    fields (spreadOut gaps words) = words := by
  induction words generalizing gaps with
  | nil => rfl
  | cons word words ih =>
    have hword := fields_fieldForm (hwords word (by simp))
    cases words with
    | nil => exact hword
    | cons next words =>
      have hgap : IsGap (gaps 0) := hgaps 0 (by simp)
      have hlater : ∀ i, i + 1 < (next :: words).length → IsGap (gaps (i + 1)) :=
        fun i hi => hgaps (i + 1) (Nat.succ_lt_succ hi)
      have hrest : fields (spreadOut (fun i => gaps (i + 1)) (next :: words)) = next :: words :=
        ih (fun w hw => hwords w (by simp [hw])) hlater
      rw [spreadOut, String.append_assoc, fields_append (hgap.continues_append _), hword,
        fields_separators hgap.2, hrest]
      rfl

/-- The fields of two texts with a separator between them are those of the first and then those of the
second. The fields of a text, written out with any separators between them, of which there has to be one
at least, and with any or none at both ends, are read again as they are. -/
theorem fields_compose_and_are_stable :
    (∀ (first second : String) (s : Char), isSeparator s = true →
      fields (first ++ String.singleton s ++ second) = fields first ++ fields second) ∧
    ∀ (text opening closing : String) (gaps : Nat → String), Separators opening → Separators closing →
      (∀ i, i + 1 < (fields text).length → IsGap (gaps i)) →
      fields (opening ++ spreadOut gaps (fields text) ++ closing) = fields text := by
  refine ⟨fun first second _ hs => fields_append_separator hs first second, ?_⟩
  intro text opening closing gaps hopening hclosing hgaps
  have hforms : ∀ field ∈ fields text, FieldForm field.toList := fun _ => fieldForm_of_mem_fields
  calc fields (opening ++ spreadOut gaps (fields text) ++ closing)
      = fields (opening ++ spreadOut gaps (fields text)) ++ fields closing :=
        fields_append hclosing.continues_eq_false
    _ = fields (spreadOut gaps (fields text)) := by
        rw [hclosing.fields_eq_nil, List.append_nil, fields_separators hopening]
    _ = fields text := fields_spreadOut hforms hgaps

theorem fields_compose_and_are_stable_of_signs :
    isSeparator '(' = true ∧
    fields ("-5 a" ++ String.singleton '(' ++ "_b") = fields "-5 a" ++ fields "_b" ∧
    fields "-5 a_b" = ["-5", "a", "_b"] ∧ Separators "((" ∧ Separators "" ∧
    (∀ i, i + 1 < (fields "-5 a_b").length → IsGap ",\u3000") ∧
    fields ("((" ++ spreadOut (fun _ => ",\u3000") (fields "-5 a_b") ++ "") = fields "-5 a_b" := by
  have hs : isSeparator '(' = true := rfl
  have hopening : Separators "((" := by decide
  have hclosing : Separators "" := by decide
  have hgap : IsGap ",\u3000" := ⟨by decide, by decide⟩
  refine ⟨hs, fields_compose_and_are_stable.1 _ _ _ hs, rfl, hopening, hclosing, fun _ _ => hgap, ?_⟩
  exact fields_compose_and_are_stable.2 _ _ _ _ hopening hclosing fun _ _ => hgap

end SchemaShell.Schema
