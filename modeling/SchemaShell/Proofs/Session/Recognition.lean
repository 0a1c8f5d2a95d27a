import SchemaShell.Proofs.Command.Opening
import SchemaShell.Proofs.Session.Effect

/-!
# What a line is taken for

A line is taken for the kind whose words it begins with. The openings and the shapes agree: a line
with the shape of a kind is handled as a command of this kind, in every session.
-/

namespace SchemaShell

open Command

variable {σ : Type}

namespace Session

theorem kind?_process (handler : Handler σ) (session : Session σ) (line : String) :
    (session.process handler line).outcome.kind? = classify line := by
  cases hopens : classify line with
  | none => simp [process, hopens, Outcome.kind?]
  | some kind =>
    cases hfits : validate kind line with
    | error error =>
      obtain ⟨-, rfl⟩ := validate_eq_error_iff.mp hfits
      simp [process, hopens, hfits, Outcome.kind?]
    | ok command => simp [process, hopens, hfits, Outcome.kind?]

theorem exists_handled_of_fits {kind : Kind} {line : String} {command : Command}
    (h : validate kind line = .ok command) (handler : Handler σ) (session : Session σ) :
    ∃ result, (session.process handler line).outcome = .handled kind result := by
  rw [process_of_reads ⟨classify_of_fits h, h⟩]
  exact ⟨_, rfl⟩

/-- The two layers of recognition agree. A line has the opening of one kind at most, so the order in
which the kinds are tried does not matter, and a line that has the shape of a kind is classified and
handled as this kind and has the shape of no other. -/
theorem recognition_layers_agree (line : String) :
    (∀ kind other : Kind, kind.opens line = true → other.opens line = true → kind = other) ∧
    (∀ order : List Kind, order.Perm Kind.all →
      order.find? (fun kind => kind.opens line) = classify line) ∧
    (∀ kind command, validate kind line = .ok command →
      classify line = some kind ∧
      ∀ {σ : Type} (handler : Handler σ) (session : Session σ),
        ∃ result, (session.process handler line).outcome = .handled kind result) ∧
    ∀ kind other command second, validate kind line = .ok command →
      validate other line = .ok second → kind = other := by
  refine ⟨?_, ?_, ?_, ?_⟩
  · intro kind other hkind hother
    obtain ⟨rest, hrest⟩ := Kind.opens_iff.mp hkind
    obtain ⟨last, hlast⟩ := Kind.opens_iff.mp hother
    exact hrest.kind_eq hlast
  · intro order horder
    have hall : ∀ kind, kind ∈ order := fun kind => horder.mem_iff.mpr (Kind.mem_all kind)
    apply Option.ext
    intro kind
    rw [find?_opens_iff hall, classify_eq_some_iff]
  · intro kind command hfits
    exact ⟨classify_of_fits hfits, exists_handled_of_fits hfits⟩
  · intro kind other command second hkind hother
    have hclass := classify_of_fits hkind
    rw [classify_of_fits hother] at hclass
    exact (Option.some_inj.mp hclass).symm

/-- A line that is recognised begins with the words of its kind, and every line that begins with the
words of a kind is taken for this kind, also where the last word goes on. If it goes on, the command is
not accepted, unless it is a SELECT or a CREATE INDEX. -/
theorem recognized_iff_begins (handler : Handler σ) (session : Session σ) (line : String) :
    ((session.process handler line).outcome ≠ .unrecognized → ∃ kind rest,
      (session.process handler line).outcome.kind? = some kind ∧ kind.Begins line rest) ∧
    (∀ kind rest, kind.Begins line rest →
      classify line = some kind ∧ (session.process handler line).outcome.kind? = some kind) ∧
    ∀ kind rest result, (session.process handler line).outcome = .handled kind result →
      kind.Begins line rest → kind ≠ .select → kind ≠ .createIndex →
      ∀ c ∈ rest.head?, c.isAlphanum = false := by
  have hkind := kind?_process handler session line
  refine ⟨?_, ?_, ?_⟩
  · intro hrecognized
    cases hopens : classify line with
    | none => simp [process, hopens] at hrecognized
    | some kind =>
      obtain ⟨rest, hrest⟩ := classify_eq_some_iff.mp hopens
      exact ⟨kind, rest, hkind.trans hopens, hrest⟩
  · intro kind rest hbegins
    have hopens := classify_eq_some_iff.mpr ⟨rest, hbegins⟩
    exact ⟨hopens, hkind.trans hopens⟩
  · intro kind rest result hhandled hbegins hselect hindex
    have hopens : classify line = some kind := classify_eq_some_iff.mpr ⟨rest, hbegins⟩
    cases hfits : validate kind line with
    | error error => simp [process, hopens, hfits] at hhandled
    | ok command => exact hbegins.ends_word hfits hselect hindex

/-- `SELECTED` is no keyword, and yet a line that begins with it is taken for a SELECT. -/
theorem longer_word_is_recognized :
    ((start ()).process .deferring "SELECTED x").outcome ≠ .unrecognized ∧
      ¬ ∃ kind rest, ((start ()).process .deferring "SELECTED x").outcome.kind? = some kind ∧
        kind.Begins "SELECTED x" rest ∧ ∀ c ∈ rest.head?, c.isAlphanum = false := by
  have houtcome : ((start ()).process .deferring "SELECTED x").outcome =
      .malformed ⟨.select⟩ := rfl
  have hbegins : Kind.select.Begins "SELECTED x" "ED x".toList := ⟨"SELECT".toList, rfl, rfl⟩
  rw [houtcome]
  refine ⟨by simp, ?_⟩
  rintro ⟨kind, rest, hkind, hrest, hend⟩
  obtain rfl : Kind.select = kind := by simpa [Outcome.kind?] using hkind
  rw [hrest.rest_eq hbegins] at hend
  exact absurd (hend 'E' rfl) (by decide)

end Session

end SchemaShell
