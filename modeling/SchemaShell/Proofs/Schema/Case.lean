import Mathlib.Data.List.Forall2
import SchemaShell.Proofs.Schema.Lexer
import SchemaShell.Proofs.Text.Case
import SchemaShell.Schema.Build

/-!
# Column blocks that differ in letter case only

Two such blocks have corresponding fields, and they build columns of the same types and sizes or are
refused for the same reason. Any two blocks may be compared, also blocks that no line could hold.
-/

namespace SchemaShell.Schema

open Text

variable {text other : List Char}

/-! ## Fields -/

theorem caseFree_isSeparator : CaseFree isSeparator :=
  (((caseFree_eq rfl).or (caseFree_eq rfl)).or (caseFree_eq rfl)).or caseFree_isWhiteSpace

theorem continues_recased (h : Recased text other) : continues text = continues other := by
  cases text with
  | nil => rw [h.eq_nil_iff.mp rfl]
  | cons c text =>
    obtain ⟨d, back, rfl, hd, -⟩ := h.exists_of_cons
    exact caseFree_isAlphanum.eq hd

theorem extendFirst_recased {c d : Char} (hd : c.toUpper = d.toUpper) {fields others : List (List Char)}
    (h : List.Forall₂ Recased fields others) :
    List.Forall₂ Recased (extendFirst c fields) (extendFirst d others) := by
  cases h with
  | nil => exact .cons (.cons hd .nil) .nil
  | cons hfirst hrest => exact .cons (.cons hd hfirst) hrest

theorem fieldsOf_recased (h : Recased text other) :
    List.Forall₂ Recased (fieldsOf text) (fieldsOf other) := by
  induction text generalizing other with
  | nil =>
    rw [h.eq_nil_iff.mp rfl]
    exact .nil
  | cons c text ih =>
    obtain ⟨d, back, rfl, hd, hback⟩ := h.exists_of_cons
    rw [fieldsOf, fieldsOf, caseFree_isSeparator.eq hd, continues_recased hback]
    split
    · exact ih hback
    split
    · exact extendFirst_recased hd (ih hback)
    · exact .cons (.cons hd .nil) (ih hback)

def SameLetters (word other : String) : Prop :=
  Recased word.toList other.toList

instance (word other : String) : Decidable (SameLetters word other) :=
  inferInstanceAs (Decidable (Recased word.toList other.toList))

theorem fields_recased {block second : String} (h : SameLetters block second) :
    List.Forall₂ SameLetters (fields block) (fields second) := by
  rw [fields_eq, fields_eq, List.forall₂_map_left_iff, List.forall₂_map_right_iff]
  simpa only [SameLetters, String.toList_ofList] using fieldsOf_recased h

/-! ## Columns -/

structure Column.Alike (column second : Column) : Prop where
  name : SameLetters column.name second.name
  type : column.type = second.type
  size : column.size = second.size
  default : SameLetters column.default second.default

inductive BuildError.Alike : BuildError → BuildError → Prop where
  | incompleteColumn (table other : String) (leftover : Nat) :
    Alike (.incompleteColumn table leftover) (.incompleteColumn other leftover)
  | unknownType {word other : String} (h : SameLetters word other) :
    Alike (.unknownType word) (.unknownType other)
  | invalidSize {word other : String} (h : SameLetters word other) :
    Alike (.invalidSize word) (.invalidSize other)

/-- Both succeed with results that are alike, or both fail with errors that are. -/
inductive BuildsAlike {α : Type} (R : α → α → Prop) : Except BuildError α → Except BuildError α → Prop where
  | built {a b : α} (h : R a b) : BuildsAlike R (.ok a) (.ok b)
  | refused {error other : BuildError} (h : error.Alike other) : BuildsAlike R (.error error) (.error other)

theorem BuildsAlike.map {α β : Type} {R : α → α → Prop} {S : β → β → Prop} {f g : α → β}
    (hfg : ∀ a b, R a b → S (f a) (g b)) {a b : Except BuildError α} (h : BuildsAlike R a b) :
    BuildsAlike S (a.map f) (b.map g) := by
  cases h with
  | built h => exact .built (hfg _ _ h)
  | refused h => exact .refused h

theorem BuildsAlike.bind {α β : Type} {R : α → α → Prop} {S : β → β → Prop}
    {f g : α → Except BuildError β} (hfg : ∀ a b, R a b → BuildsAlike S (f a) (g b))
    {a b : Except BuildError α} (h : BuildsAlike R a b) : BuildsAlike S (a >>= f) (b >>= g) := by
  cases h with
  | built h => exact hfg _ _ h
  | refused h => exact .refused h

theorem ofWord?_recased {word second : String} (h : SameLetters word second) :
    ValueType.ofWord? word = ValueType.ofWord? second := by
  simp only [ValueType.ofWord?, h.lower_eq]

theorem buildColumn_recased {name type size default name' type' size' default' : String}
    (hname : SameLetters name name') (htype : SameLetters type type') (hsize : SameLetters size size')
    (hdefault : SameLetters default default') :
    BuildsAlike Column.Alike (buildColumn name type size default)
      (buildColumn name' type' size' default') := by
  unfold buildColumn
  rw [ofWord?_recased htype, hsize.numeral?_eq]
  cases ValueType.ofWord? type' with
  | none => exact .refused (.unknownType htype)
  | some type =>
    cases numeral? size'.toList with
    | none => exact .refused (.invalidSize hsize)
    | some size => exact .built ⟨hname, rfl, rfl, hdefault⟩

theorem buildColumns_recased {words others : List String} (h : List.Forall₂ SameLetters words others) :
    BuildsAlike (List.Forall₂ Column.Alike) (buildColumns words) (buildColumns others) := by
  induction words using buildColumns.induct generalizing others with
  | case1 name type size default words ih =>
    rcases h with _ | ⟨hname, _ | ⟨htype, _ | ⟨hsize, _ | ⟨hdefault, hrest⟩⟩⟩⟩
    rw [buildColumns, buildColumns]
    refine (buildColumn_recased hname htype hsize hdefault).bind fun column twin hcolumn => ?_
    exact (ih hrest).bind fun columns twins hcolumns => .built (.cons hcolumn hcolumns)
  | case2 words hfew =>
    -- The other row is as long, so it has no whole record either.
    rcases h with _ | ⟨hname, _ | ⟨htype, _ | ⟨hsize, _ | ⟨hdefault, hrest⟩⟩⟩⟩
    · exact .built .nil
    · exact .built .nil
    · exact .built .nil
    · exact .built .nil
    · exact absurd rfl (hfew _ _ _ _ _)

theorem build_recased (name other : String) {block second : String} (h : SameLetters block second) :
    BuildsAlike (fun table twin => List.Forall₂ Column.Alike table.columns twin.columns)
      (build name block) (build other second) := by
  have hfields := fields_recased h
  simp only [build, hfields.length_eq]
  split
  · apply (buildColumns_recased hfields).map
    exact fun _ _ hcolumns => hcolumns
  · exact .refused (.incompleteColumn name other _)

end SchemaShell.Schema
