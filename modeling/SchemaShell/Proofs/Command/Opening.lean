import SchemaShell.Proofs.Command.Language
import SchemaShell.Proofs.Command.Line
import SchemaShell.Proofs.Pattern.Settled

/-!
# Openings

A line has the opening of a kind just when it begins with the words of the kind, whatever follows
them. No text begins with the words of two kinds, so a line can be taken for one kind only.
-/

namespace SchemaShell.Command

open Pattern Shape Written Lead

variable {kind other : Kind} {line : String} {text more front back : List Char}

/-! ## Words at the front of a text -/

theorem Written.Spells.length_eq {word : String} (h : Spells word text) :
    text.length = word.toList.length := by
  rw [← h, List.length_map]

theorem Written.Spells.prefix_or_prefix {word second : String} (h : Spells word text)
    (hs : Spells second more) (heq : text ++ front = more ++ back) :
    word.toList <+: second.toList ∨ second.toList <+: word.toList := by
  unfold Spells at h hs
  rw [← h, ← hs]
  rcases List.append_eq_append_iff.mp heq with ⟨longer, rfl, -⟩ | ⟨longer, rfl, -⟩
  · left
    simp
  · right
    simp

theorem Written.Phrase.exists_first {word : String} {words : List String}
    (h : Phrase (word :: words) text) :
    ∃ first tail, Spells word first ∧ text = first ++ tail ∧
      (words ≠ [] → ∃ gap back, Blanks gap ∧ Phrase words back ∧ tail = gap ++ back) := by
  cases words with
  | nil => exact ⟨text, [], h, by simp, by simp⟩
  | cons next words =>
    obtain ⟨first, gap, back, hfirst, -, hgap, hback, rfl⟩ := h
    exact ⟨first, gap ++ back, hfirst, rfl, fun _ => ⟨gap, back, hgap, hback, rfl⟩⟩

/-- The word is not empty and does not begin with a blank. -/
def opensVisibly (word : String) : Bool :=
  word.toList.head?.any fun c => !Text.isBlank c

theorem Written.Phrase.head_visible {words : List String} (h : Phrase words text)
    (hwords : words.head?.any opensVisibly = true) (rest : List Char) :
    ∀ c ∈ (text ++ rest).head?, Text.isBlank c = false := by
  cases words with
  | nil => simp at hwords
  | cons word words =>
    obtain ⟨first, tail, hfirst, rfl, -⟩ := h.exists_first
    unfold Spells at hfirst
    simp only [opensVisibly, ← hfirst, List.head?_cons, Option.any_some] at hwords
    cases first with
    | nil => simp at hwords
    | cons d first =>
      simp only [List.map_cons, List.head?_cons, Option.any_some, Bool.not_eq_true'] at hwords
      intro c hc
      obtain rfl : d = c := by simpa using hc
      refine Bool.eq_false_iff.mpr fun hblank => ?_
      rw [Text.isBlank_toUpper hblank] at hwords
      cases hwords

/-- Of the first two words that differ, neither begins with the other. -/
def wordsApart : List String → List String → Bool
  | word :: words, second :: others =>
    if word = second then
      words.head?.any opensVisibly && others.head?.any opensVisibly && wordsApart words others
    else !word.toList.isPrefixOf second.toList && !second.toList.isPrefixOf word.toList
  | _, _ => false

theorem Written.Phrase.append_ne_append {words others : List String}
    (hapart : wordsApart words others = true) (h : Phrase words text) (ho : Phrase others more) :
    text ++ front ≠ more ++ back := by
  induction words generalizing others text more with
  | nil => simp [wordsApart] at hapart
  | cons word words ih =>
    cases others with
    | nil => simp [wordsApart] at hapart
    | cons second others =>
      obtain ⟨first, tail, hfirst, rfl, hwords⟩ := h.exists_first
      obtain ⟨start, later, hstart, rfl, hothers⟩ := ho.exists_first
      intro heq
      rw [List.append_assoc, List.append_assoc] at heq
      rw [wordsApart] at hapart
      split at hapart
      · next hsame =>
        subst hsame
        simp only [Bool.and_eq_true] at hapart
        obtain ⟨⟨hw, hs⟩, hapart⟩ := hapart
        obtain ⟨gap, text, hgap, htext, rfl⟩ := hwords (by rintro rfl; simp at hw)
        obtain ⟨space, more, hspace, hmore, rfl⟩ := hothers (by rintro rfl; simp at hs)
        -- The word is as long in both texts, and so are the blanks behind it.
        have hlength : first.length = start.length := by rw [hfirst.length_eq, hstart.length_eq]
        obtain ⟨rfl, htail⟩ := List.append_inj heq hlength
        rw [List.append_assoc, List.append_assoc] at htail
        have hblanks : gap = space := by
          rw [← takeWhile_append_of_head hgap (htext.head_visible hw front), htail,
            takeWhile_append_of_head hspace (hmore.head_visible hs back)]
        subst hblanks
        exact ih hapart htext hmore (List.append_cancel_left htail)
      · have hprefix := hfirst.prefix_or_prefix hstart heq
        simp only [Bool.and_eq_true, Bool.not_eq_true', ← Bool.not_eq_true,
          List.isPrefixOf_iff_prefix] at hapart
        tauto

/-! ## The opening of a line -/

/-- The line begins with the words of the kind, and `rest` follows them. -/
def Kind.Begins (kind : Kind) (line : String) (rest : List Char) : Prop :=
  ∃ front, Phrase kind.words front ∧ normalize line = front ++ rest

/-- The line has the opening of the kind. -/
def Kind.opens (kind : Kind) (line : String) : Bool :=
  (kind.opening.read? (normalize line)).isSome

theorem wordsApart_of_ne (h : kind ≠ other) : wordsApart kind.words other.words = true := by
  cases kind <;> cases other <;> first | rfl | exact absurd rfl h

theorem Kind.Begins.kind_eq {rest last : List Char} (h : kind.Begins line rest)
    (ho : other.Begins line last) : kind = other := by
  obtain ⟨front, hfront, htext⟩ := h
  obtain ⟨start, hstart, hline⟩ := ho
  by_contra hne
  exact hfront.append_ne_append (wordsApart_of_ne hne) hstart (htext.symm.trans hline)

theorem derives_phrase (h : Phrase kind.words text) : kind.phrase.Derives text [] :=
  plain_gap.seq_iff.mpr ⟨[], by simp [Blanks], text, rfl, (plain_phrase _ _ _).mpr ⟨h, rfl⟩⟩

theorem read?_phrase (h : Phrase kind.words text) (rest : List Char) :
    kind.phrase.read? (text ++ rest) = some ⟨text, [], rest⟩ := by
  have hsettled : kind.phrase.settled [any] = true := by cases kind <;> decide
  exact read?_of_settled hsettled (derives_phrase h) (before_any rest)

theorem Kind.Begins.rest_eq {rest last : List Char} (h : kind.Begins line rest)
    (hl : kind.Begins line last) : rest = last := by
  obtain ⟨front, hfront, htext⟩ := h
  obtain ⟨start, hstart, hline⟩ := hl
  have hread := read?_phrase hfront rest
  rw [← htext, hline, read?_phrase hstart last] at hread
  exact (congrArg Reading.rest (Option.some_inj.mp hread)).symm

theorem begins_of_mem_readings {r : Reading Field} (h : r ∈ kind.phrase.readings (normalize line)) :
    kind.Begins line r.rest := by
  have hsplit := taken_append_rest _ _ r h
  obtain ⟨gap, hgap, front, htaken, hfront⟩ :=
    plain_gap.seq_iff.mp (derives_of_mem_readings _ _ r h)
  obtain ⟨hphrase, -⟩ := (plain_phrase _ _ _).mp hfront
  cases gap with
  | nil => exact ⟨front, hphrase, by rw [← hsplit, htaken, List.nil_append]⟩
  | cons c gap =>
    have hvisible := isBlank_head_normalize line c (by simp [← hsplit, htaken])
    simp [hgap c (by simp)] at hvisible

theorem readings_gap (text : List Char) :
    ∃ r, (gap : Shape).readings text = [r] :=
  ⟨_, by simp [gap, readings]; rfl⟩

theorem readings_opening_eq_nil_iff : kind.opening.readings text = [] ↔ kind.phrase.readings text = [] := by
  simp only [Kind.opening, readings, List.flatMap_eq_nil_iff]
  constructor
  · intro hall
    refine List.eq_nil_iff_forall_not_mem.mpr fun r hr => ?_
    obtain ⟨next, hnext⟩ := readings_gap r.rest
    simpa [hnext] using hall r hr
  · intro hnil
    simp [hnil]

theorem Kind.opens_iff : kind.opens line = true ↔ ∃ rest, kind.Begins line rest := by
  have hread : kind.opens line = true ↔ kind.phrase.readings (normalize line) ≠ [] := by
    rw [Kind.opens, Pattern.read?, ne_eq, ← readings_opening_eq_nil_iff]
    simp
  rw [hread]
  constructor
  · intro hne
    obtain ⟨r, others, hr⟩ := List.exists_cons_of_ne_nil hne
    exact ⟨r.rest, begins_of_mem_readings (by simp [hr])⟩
  · rintro ⟨rest, front, hfront, htext⟩ hnil
    have hphrase := read?_phrase hfront rest
    rw [← htext, Pattern.read?, hnil] at hphrase
    cases hphrase

theorem begins_of_fits {command : Command} (h : validate kind line = .ok command) :
    ∃ rest, kind.Begins line rest := by
  obtain ⟨r, hr, -⟩ := validate_eq_ok_iff.mp h
  obtain ⟨front, hfront, -⟩ := List.mem_flatMap.mp (List.mem_of_head? hr)
  exact ⟨front.rest, begins_of_mem_readings hfront⟩

theorem body_begins_with_blank (hselect : kind ≠ .select) (hindex : kind ≠ .createIndex) :
    kind.body.leads = [.one .blank] ∧ kind.body.mayVanish = false := by
  cases kind <;> first | contradiction | exact ⟨rfl, rfl⟩

theorem Kind.Begins.ends_word {rest : List Char} (h : kind.Begins line rest) {command : Command}
    (hfits : validate kind line = .ok command) (hselect : kind ≠ .select)
    (hindex : kind ≠ .createIndex) : ∀ c ∈ rest.head?, c.isAlphanum = false := by
  obtain ⟨r, hr, -⟩ := validate_eq_ok_iff.mp hfits
  obtain ⟨front, hfront, hback⟩ := List.mem_flatMap.mp (List.mem_of_head? hr)
  obtain ⟨back, hback, -⟩ := List.mem_map.mp hback
  have hbody := derives_of_mem_readings _ _ back hback
  obtain ⟨hleads, hneeds⟩ := body_begins_with_blank hselect hindex
  have hbefore := before_leads hbody
  rw [h.rest_eq (begins_of_mem_readings hfront), ← taken_append_rest _ _ back hback]
  rw [hleads] at hbefore
  cases htaken : back.taken with
  | nil =>
    rw [htaken] at hbody
    rw [mayVanish_of_derives hbody] at hneeds
    cases hneeds
  | cons c taken =>
    rw [htaken] at hbefore
    obtain ⟨lead, hlead, hc⟩ := before_cons.mp hbefore
    obtain rfl := List.mem_singleton.mp hlead
    have hblank : Text.isBlank c = true := hc
    simpa using Text.not_isAlphanum_of_isBlank hblank

/-! ## The kind of a line -/

theorem find?_opens_iff {kinds : List Kind} (hall : ∀ kind, kind ∈ kinds) :
    kinds.find? (fun kind => kind.opens line) = some kind ↔ ∃ rest, kind.Begins line rest := by
  rw [← Kind.opens_iff]
  constructor
  · exact List.find?_some
  · intro hopens
    have hsome : (kinds.find? fun kind => kind.opens line).isSome = true :=
      List.find?_isSome.mpr ⟨kind, hall kind, hopens⟩
    obtain ⟨first, hfirst⟩ := Option.isSome_iff_exists.mp hsome
    have hopensFirst : first.opens line = true := by simpa using List.find?_some hfirst
    obtain ⟨rest, hrest⟩ := Kind.opens_iff.mp hopens
    obtain ⟨last, hlast⟩ := Kind.opens_iff.mp hopensFirst
    rw [hfirst, hlast.kind_eq hrest]

theorem classify_eq_some_iff : classify line = some kind ↔ ∃ rest, kind.Begins line rest :=
  find?_opens_iff Kind.mem_all

theorem classify_of_fits {command : Command} (h : validate kind line = .ok command) :
    classify line = some kind :=
  classify_eq_some_iff.mpr (begins_of_fits h)

end SchemaShell.Command
