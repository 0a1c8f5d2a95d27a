import SchemaShell.Proofs.Command.WholeWords
import SchemaShell.Proofs.Pattern.InOrder
import SchemaShell.Proofs.Schema.Cuts

/-!
# What a command captures

A command has all fields of its shape, in order. The fields that its line gives are pieces of the text
that the shape covers, none of them empty and each behind the one before. Those that stand in no choice
are always given. By a label one gets the text of the field, if the line gives it, and nothing otherwise.
-/

namespace SchemaShell.Command

open Pattern Written

variable {kind : Kind} {line text label : String} {command : Command} {field : Field}

/-! ## The shapes -/

/-- The fields that hold a list of names or values. -/
def Field.isList : Field → Bool
  | columns | values => true
  | table | ifNotExists | index | column | all | value | setColumn | setValue | whereColumn | whereValue => false

theorem shape_flat (kind : Kind) : kind.shape.flat = true := by
  cases kind <;> decide

theorem nodup_names (kind : Kind) : kind.shape.names.Nodup := by
  cases kind <;> decide

theorem shape_partsTakeSome (kind : Kind) : kind.shape.partsTakeSome = true := by
  cases kind <;> decide

def isListMark (c : Char) : Bool :=
  c.isAlphanum || Schema.isSeparator c

theorem isListMark_of_holds {cls : CharClass} {c : Char} (h : cls.holds c = true) : isListMark c = true := by
  simp only [isListMark, Bool.or_eq_true]
  cases cls with
  | blank => exact Or.inr (Schema.isSeparator_of_isBlank h)
  | letter => exact Or.inl (Text.isAlphanum_of_isAlpha h)
  | digit => exact Or.inl (Text.isAlphanum_of_isDigit h)
  | alphanumeric => exact Or.inl h
  | alphanumericOrBlank => exact (Bool.or_eq_true_iff.mp h).imp_right Schema.isSeparator_of_isBlank

theorem shape_lists (kind : Kind) :
    (kind.shape.bodies.all fun b =>
      !b.1.isList || b.2.madeOf (fun _ => true) isListMark (fun _ => false)) = true := by
  cases kind <;> decide

/-! ## Texts by label -/

theorem lookup_eq_some_of_mem {κ α : Type} [BEq κ] [LawfulBEq κ] {key : κ} {value : α}
    {pairs : List (κ × α)} (hkeys : (pairs.map Prod.fst).Nodup) (h : (key, value) ∈ pairs) :
    pairs.lookup key = some value := by
  obtain ⟨front, back, rfl⟩ := List.append_of_mem h
  refine List.lookup_eq_some_iff.mpr ⟨front, back, rfl, ?_⟩
  intro pair hpair
  rw [bne_iff_ne]
  rintro rfl
  rw [List.map_append, List.nodup_append] at hkeys
  exact hkeys.2.2 _ (List.mem_map_of_mem hpair) _ (by simp) rfl

theorem ofLabel?_eq_some_iff : Field.ofLabel? label = some field ↔ field.label = label := by
  constructor
  · intro h
    have hfound := List.find?_some (p := fun field : Field => field.label == label) h
    exact beq_iff_eq.mp hfound
  · rintro rfl
    exact Field.ofLabel?_label field

theorem getLabel?_eq_some_iff :
    command.getLabel? label = some text ↔ ∃ field, field.label = label ∧ command.get? field = some text := by
  unfold getLabel?
  simp only [Option.bind_eq_some_iff, ofLabel?_eq_some_iff]

theorem lookup_captures {r : Reading Field} (h : field ∈ kind.fields) :
    (ofReading kind r).captures.lookup field = some ((fieldText? r field).getD "") :=
  List.lookup_graph (fun field => (fieldText? r field).getD "") h

theorem get?_ofReading {r : Reading Field} (hfields : ∀ part ∈ r.parts, part.1 ∈ kind.fields)
    (hsome : ∀ part ∈ r.parts, part.2 ≠ []) (field : Field) :
    (ofReading kind r).get? field = fieldText? r field := by
  cases hpart : r.parts.lookup field with
  | some value =>
    have hmem := mem_of_lookup_eq_some hpart
    have hcapture := lookup_captures (r := r) (hfields _ hmem)
    simp only [fieldText?, hpart, Option.map_some, Option.getD_some] at hcapture ⊢
    rw [get?_eq hcapture, if_neg (hsome _ hmem)]
  | none =>
    have htext : fieldText? r field = none := by rw [fieldText?, hpart, Option.map_none]
    rw [htext]
    by_cases hfield : field ∈ kind.fields
    · have hcapture := lookup_captures (r := r) hfield
      rw [htext, Option.getD_none] at hcapture
      simp [get?, hcapture]
    · have hnone : (ofReading kind r).captures.lookup field = none := by
        refine List.lookup_eq_none_iff.mpr ?_
        intro capture hcapture
        obtain ⟨other, hother, rfl⟩ := List.mem_map.mp hcapture
        rw [bne_iff_ne]
        rintro rfl
        exact hfield hother
      simp [get?, hnone]

/-! ## Parts and texts -/

/-- The parts that a line gives to a command, with the places where they stand on it. -/
structure Captures (command : Command) (parts : List (Spot Field × List Char)) : Prop where
  names : (parts.map fun s => s.1.name).Sublist command.kind.shape.names
  ne_nil : ∀ s ∈ parts, s.2 ≠ []
  within : ∀ s ∈ parts, s.1.before ++ s.2 <+: command.matched.toList
  inOrder : parts.Pairwise Precedes
  getLabel? : ∀ label text, command.getLabel? label = some text ↔
    ∃ s ∈ parts, s.1.name.label = label ∧ String.ofList s.2 = text

theorem captures_of_placed {r : Reading (Spot Field)} {whole : List Char}
    (hr : r ∈ kind.shape.placed [] whole) : (ofReading kind (r.relabel Spot.name)).Captures r.parts := by
  have hnames := names_sublist hr (shape_flat kind)
  have hsome := ne_nil_of_mem_parts hr (shape_partsTakeSome kind)
  have hkeys : ((r.relabel Spot.name).parts.map Prod.fst).Nodup := by
    simpa [Reading.relabel, Function.comp_def] using hnames.nodup (nodup_names kind)
  refine ⟨hnames, hsome, ?_, pairwise_precedes hr (shape_flat kind), ?_⟩
  · intro s hs
    simpa [ofReading] using (within_of_mem_parts hr (shape_flat kind) s hs).2
  · intro label text
    have hget : ∀ field, (ofReading kind (r.relabel Spot.name)).get? field =
        fieldText? (r.relabel Spot.name) field := by
      apply get?_ofReading
      · intro part hpart
        obtain ⟨s, hs, rfl⟩ := List.mem_map.mp hpart
        exact name_mem_names hr s hs
      · intro part hpart
        obtain ⟨s, hs, rfl⟩ := List.mem_map.mp hpart
        exact hsome s hs
    simp only [getLabel?_eq_some_iff, hget, fieldText?, Option.map_eq_some_iff]
    constructor
    · rintro ⟨field, hlabel, value, hlookup, htext⟩
      obtain ⟨s, hs, hpart⟩ := List.mem_map.mp (mem_of_lookup_eq_some hlookup)
      cases hpart
      exact ⟨s, hs, hlabel, htext⟩
    · rintro ⟨s, hs, hlabel, htext⟩
      have hmem : (s.1.name, s.2) ∈ (r.relabel Spot.name).parts := List.mem_map_of_mem hs
      exact ⟨s.1.name, hlabel, s.2, lookup_eq_some_of_mem hkeys hmem, htext⟩

theorem Captures.getLabel?_required {parts : List (Spot Field × List Char)} (h : command.Captures parts)
    (hname : field ∈ parts.map fun s => s.1.name) : (command.getLabel? field.label).isSome = true := by
  obtain ⟨s, hs, rfl⟩ := List.mem_map.mp hname
  rw [Option.isSome_iff_exists]
  exact ⟨_, (h.getLabel? _ _).mpr ⟨s, hs, rfl, rfl⟩⟩

example : Kind.createIndex.shape.required = [.index, .table, .column] := rfl

/-! ## Words -/

theorem getLabel?_label (command : Command) (field : Field) :
    command.getLabel? field.label = command.get? field := by
  rw [getLabel?, Field.ofLabel?_label, Option.bind_some]

theorem word_of_get? (h : validate kind line = .ok command) (hfield : field.isWord = true)
    (htext : command.get? field = some text) : Word text.toList := by
  refine ⟨?_, isAlphanum_of_get? h hfield htext⟩
  intro hnil
  have hne := (Option.filter_eq_some_iff.mp htext).2
  simp [String.toList_eq_nil_iff.mp hnil] at hne

theorem word_of_mem_fields (h : ∀ c ∈ text.toList, isListMark c = true) :
    ∀ entry ∈ Schema.fields text, Word entry.toList := by
  intro entry hentry
  rw [Schema.fields_eq] at hentry
  obtain ⟨piece, hpiece, rfl⟩ := List.mem_map.mp hentry
  rw [String.toList_ofList]
  have hform := Schema.fieldForm_of_mem _ hpiece
  refine ⟨?_, ?_⟩
  · rintro rfl
    exact hform
  · intro c hc
    have hkept : c ∈ Schema.kept text.toList := by
      rw [← Schema.flatten_fieldsOf]
      exact List.mem_flatten_of_mem hpiece hc
    have hmark := h c (List.mem_of_mem_filter hkept)
    rwa [isListMark, hform.mem hc, Bool.or_false] at hmark

theorem words_of_list {r : Reading (Spot Field)} {whole : List Char} (hr : r ∈ kind.shape.placed [] whole)
    {s : Spot Field × List Char} (hs : s ∈ r.parts) (hlist : s.1.name.isList = true) :
    ∀ entry ∈ Schema.fields (String.ofList s.2), Word entry.toList := by
  obtain ⟨body, hbody, ⟨inner, hinner, htaken, -⟩, -⟩ := exists_body_of_mem_parts hr hs
  have hmade := List.all_eq_true.mp (shape_lists kind) _ hbody
  simp only [hlist, Bool.not_true, Bool.false_or] at hmade
  apply word_of_mem_fields
  rw [String.toList_ofList, ← htaken]
  exact forall_of_madeOf (fun _ _ _ => isListMark_of_holds) (fun _ => id) (by simp)
    (derives_of_mem_placed hinner) hmade

theorem identifier_of_get? (h : validate .createTable line = .ok command)
    (htext : command.get? .table = some text) : Identifier text.toList := by
  obtain ⟨f, rest, -, -, rfl⟩ := validate_createTable_eq_ok_iff.mp h
  rw [get?_table, Option.some_inj] at htext
  rw [← htext, String.toList_ofList]
  exact f.isName

/-! ## All kinds -/

/-- An accepted command is as its handler expects it. It has the fields of its shape in order; its parts
are pieces of the matched text in the order of the fields, and by a label one gets the part with this
label and nothing else; the fields that stand in no choice have a part. A name or value is a word, so is
every entry of a list, and the name of a new table begins with a letter. -/
theorem accepted_commands_are_well_formed (h : validate kind line = .ok command) :
    command.kind = kind ∧ command.captures.map Prod.fst = kind.shape.names ∧
    (∃ r, kind.shape.place? (normalize line) = some r ∧ ofReading kind (r.relabel Spot.name) = command ∧
      command.Captures r.parts) ∧
    (∀ field ∈ kind.shape.required, (command.getLabel? field.label).isSome = true) ∧
    ∀ (field : Field) (text : String), command.getLabel? field.label = some text →
      (field.isWord = true → Word text.toList) ∧
      (field.isList = true → ∀ entry ∈ Schema.fields text, Word entry.toList) ∧
      (kind = .createTable → field = .table → Identifier text.toList) := by
  obtain ⟨r, hr, rfl⟩ := exists_placed_of_fits h
  have hmem := List.mem_of_head? hr
  have hcaptures := captures_of_placed hmem
  refine ⟨rfl, ?_, ⟨r, hr, rfl, hcaptures⟩, ?_, ?_⟩
  · simp [ofReading, Kind.fields, Function.comp_def]
  · intro field hfield
    apply hcaptures.getLabel?_required
    have hname := required_of_derives (derives_of_mem_placed hmem) field hfield
    simpa [Function.comp_def] using hname
  · intro field text htext
    have hget := htext
    rw [getLabel?_label] at hget
    refine ⟨?_, ?_, ?_⟩
    · intro hword
      exact word_of_get? h hword hget
    · intro hlist
      obtain ⟨s, hs, hlabel, rfl⟩ := (hcaptures.getLabel? _ _).mp htext
      have hsame := ofLabel?_eq_some_iff.mpr hlabel
      rw [Field.ofLabel?_label, Option.some_inj] at hsame
      subst hsame
      exact words_of_list hmem hs hlist
    · rintro rfl rfl
      exact identifier_of_get? h hget

theorem accepted_commands_are_well_formed_of_select :
    let command : Command :=
      ⟨.select, [(.columns, "a, 7"), (.all, ""), (.table, "t"), (.column, ""), (.value, "")],
        "select(a, 7)from t", ""⟩
    validate .select "select(a, 7)from t;" = .ok command ∧
    (∃ r, Kind.select.shape.place? (normalize "select(a, 7)from t;") = some r ∧
      ofReading .select (r.relabel Spot.name) = command ∧ command.Captures r.parts) ∧
    (command.getLabel? "table").isSome = true ∧ command.getLabel? "all" = none ∧
    command.getLabel? "columns" = some "a, 7" ∧ ∀ entry ∈ Schema.fields "a, 7", Word entry.toList := by
  intro command
  have hfits : validate .select "select(a, 7)from t;" = .ok command := rfl
  have hcolumns : command.getLabel? "columns" = some "a, 7" := by decide
  obtain ⟨-, -, hparts, hrequired, hwords⟩ := accepted_commands_are_well_formed hfits
  have hlist := (hwords .columns "a, 7" hcolumns).2.1
  exact ⟨hfits, hparts, hrequired .table (by decide), by decide, hcolumns, hlist rfl⟩

end SchemaShell.Command
