import SchemaShell.Proofs.Pattern.Language

/-!
# Where the parts of a reading stand

A reading keeps the texts of its parts and not their places. `placed` reads in the same way and keeps
both: each part comes with the text before it and the text behind it. With the names alone it gives
the readings back.
-/

namespace SchemaShell

/-- The name of a part, with the text before the part and the text behind it. -/
structure Spot (ι : Type) where
  name : ι
  before : List Char
  behind : List Char
  deriving DecidableEq, Repr

namespace Reading

variable {ι κ : Type}

def relabel (f : ι → κ) (r : Reading ι) : Reading κ :=
  ⟨r.taken, r.parts.map fun part => (f part.1, part.2), r.rest⟩

@[simp] theorem taken_relabel (f : ι → κ) (r : Reading ι) : (r.relabel f).taken = r.taken := rfl

@[simp] theorem rest_relabel (f : ι → κ) (r : Reading ι) : (r.relabel f).rest = r.rest := rfl

@[simp] theorem relabel_empty (f : ι → κ) (text : List Char) :
    (empty text : Reading ι).relabel f = empty text := rfl

@[simp] theorem relabel_front (f : ι → κ) (n : Nat) (text : List Char) :
    (front n text : Reading ι).relabel f = front n text := rfl

@[simp] theorem relabel_followedBy (f : ι → κ) (r next : Reading ι) :
    (r.followedBy next).relabel f = (r.relabel f).followedBy (next.relabel f) := by
  simp [relabel, followedBy]

@[simp] theorem relabel_named (f : ι → κ) (r : Reading ι) (name : ι) :
    (r.named name).relabel f = (r.relabel f).named (f name) := rfl

end Reading

namespace Pattern

variable {ι : Type}

/-! ## Readings with places -/

/-- As `rounds`, for a step that looks at the text before it. -/
def placedRounds (step : List Char → List Char → List (Reading ι)) :
    Nat → List Char → List Char → Reading ι
  | 0, _, text => .empty text
  | limit + 1, before, text =>
    match step before text with
    | [] => .empty text
    | r :: _ =>
      if r.taken = [] then .empty text
      else r.followedBy (placedRounds step limit (before ++ r.taken) r.rest)

/-- The readings of a text that stands behind `before`. -/
def placed : Pattern ι → List Char → List Char → List (Reading (Spot ι))
  | nothing, _, text => nothing.readings text
  | mark c, _, text => (mark c).readings text
  | one cls, _, text => (one cls).readings text
  | keyword word, _, text => (keyword word).readings text
  | run cls least, _, text => (run cls least).readings text
  | shortRun cls short, _, text => (shortRun cls short).readings text
  | seq first second, before, text =>
    (placed first before text).flatMap fun r =>
      (placed second (before ++ r.taken) r.rest).map r.followedBy
  | either preferred other, before, text => placed preferred before text ++ placed other before text
  | many round, before, text => [placedRounds (placed round) text.length before text]
  | part name body, before, text =>
    (placed body before text).map fun r => r.named ⟨name, before, r.rest⟩

/-- The preferred reading of a whole text, with the places of its parts. -/
def place? (p : Pattern ι) (text : List Char) : Option (Reading (Spot ι)) :=
  (p.placed [] text).head?

/-! ## The same readings -/

theorem relabel_placedRounds {κ : Type} (f : κ → ι) {step : List Char → List Char → List (Reading κ)}
    {plain : List Char → List (Reading ι)}
    (hstep : ∀ before text, (step before text).map (Reading.relabel f) = plain text) (limit : Nat)
    (before text : List Char) :
    (placedRounds step limit before text).relabel f = rounds plain limit text := by
  induction limit generalizing before text with
  | zero => rfl
  | succ limit ih =>
    rw [placedRounds, rounds, ← hstep before text]
    cases step before text with
    | nil => rfl
    | cons r others =>
      by_cases htaken : r.taken = []
      · simp [htaken]
      · simp [htaken, ih]

theorem map_relabel_placed (p : Pattern ι) (before text : List Char) :
    (p.placed before text).map (Reading.relabel Spot.name) = p.readings text := by
  induction p generalizing before text with
  | nothing => rfl
  | mark c | one cls | keyword word | run cls least | shortRun cls short =>
    simp only [placed, readings]
    split <;> rfl
  | seq first second ih₁ ih₂ =>
    simp only [placed, readings, List.map_flatMap, ← ih₁ before text, List.flatMap_map]
    congr 1
    funext r
    simp only [Reading.rest_relabel, ← ih₂ (before ++ r.taken) r.rest, List.map_map]
    congr 1
    funext next
    simp
  | either preferred other ih₁ ih₂ => simp [placed, readings, ih₁, ih₂]
  | many round ih => simp [placed, readings, relabel_placedRounds Spot.name ih]
  | part name body ih =>
    simp only [placed, readings, ← ih before text, List.map_map]
    congr 1

theorem read?_eq_map_place? (p : Pattern ι) (text : List Char) :
    p.read? text = (p.place? text).map (Reading.relabel Spot.name) := by
  rw [read?, place?, ← map_relabel_placed p [] text, List.head?_map]

variable {p : Pattern ι} {before text : List Char} {r : Reading (Spot ι)}

theorem derives_of_mem_placed (h : r ∈ p.placed before text) :
    p.Derives r.taken (r.parts.map fun part => (part.1.name, part.2)) := by
  have hmem : r.relabel Spot.name ∈ p.readings text := by
    rw [← map_relabel_placed p before text]
    exact List.mem_map_of_mem h
  exact derives_of_mem_readings p text _ hmem

theorem taken_append_rest_of_mem_placed (h : r ∈ p.placed before text) :
    r.taken ++ r.rest = text := by
  have hmem : r.relabel Spot.name ∈ p.readings text := by
    rw [← map_relabel_placed p before text]
    exact List.mem_map_of_mem h
  exact taken_append_rest p text _ hmem

theorem mem_placed_seq {first second : Pattern ι} :
    r ∈ (seq first second).placed before text ↔
      ∃ r₁ ∈ first.placed before text, ∃ r₂ ∈ second.placed (before ++ r₁.taken) r₁.rest,
        r₁.followedBy r₂ = r := by
  simp only [placed, List.mem_flatMap, List.mem_map]

/-- Each part of a loop is a part of one of its rounds, which starts further on in the same text. -/
theorem mem_parts_placedRounds {step : List Char → List Char → List (Reading (Spot ι))}
    (hstep : ∀ before text, ∀ r ∈ step before text, r.taken ++ r.rest = text)
    {s : Spot ι × List Char} {limit : Nat} (h : s ∈ (placedRounds step limit before text).parts) :
    ∃ front back, front ++ back = before ++ text ∧ ∃ r ∈ step front back, s ∈ r.parts := by
  induction limit generalizing before text with
  | zero => simp [placedRounds, Reading.empty] at h
  | succ limit ih =>
    rw [placedRounds] at h
    split at h
    · simp [Reading.empty] at h
    · next r others hr =>
      have hmem : r ∈ step before text := by simp [hr]
      split at h
      · simp [Reading.empty] at h
      · rcases List.mem_append.mp h with h | h
        · exact ⟨before, text, rfl, r, hmem, h⟩
        · obtain ⟨front, back, hsplit, hround⟩ := ih h
          refine ⟨front, back, ?_, hround⟩
          rw [hsplit, List.append_assoc, hstep before text r hmem]

/-! ## Where a part comes from -/

/-- The parts of a pattern, each with the pattern that it names. -/
def bodies : Pattern ι → List (ι × Pattern ι)
  | nothing | mark _ | one _ | keyword _ | run .. | shortRun .. => []
  | seq first second => first.bodies ++ second.bodies
  | either preferred other => preferred.bodies ++ other.bodies
  | many round => round.bodies
  | part name body => (name, body) :: body.bodies

theorem map_fst_bodies (p : Pattern ι) : p.bodies.map Prod.fst = p.names := by
  induction p with
  | nothing | mark c | one cls | keyword word | run cls least | shortRun cls short => rfl
  | seq first second ih₁ ih₂ => simp [bodies, names, ih₁, ih₂]
  | either preferred other ih₁ ih₂ => simp [bodies, names, ih₁, ih₂]
  | many round ih => simp [bodies, names, ih]
  | part name body ih => simp [bodies, names, ih]

/-- The part is what a reading of the body takes at the spot, and the spot is in the whole text. -/
structure Spot.Of (s : Spot ι × List Char) (body : Pattern ι) (whole : List Char) : Prop where
  reads : ∃ r ∈ body.placed s.1.before (s.2 ++ s.1.behind), r.taken = s.2 ∧ r.rest = s.1.behind
  within : s.1.before ++ (s.2 ++ s.1.behind) = whole

theorem exists_body_of_mem_parts (h : r ∈ p.placed before text) {s : Spot ι × List Char}
    (hs : s ∈ r.parts) : ∃ body, (s.1.name, body) ∈ p.bodies ∧ Spot.Of s body (before ++ text) := by
  induction p generalizing before text r with
  | nothing =>
    obtain rfl := List.mem_singleton.mp h
    cases hs
  | mark c | one cls | keyword word | run cls least | shortRun cls short =>
    simp only [placed, readings] at h
    split at h
    · obtain rfl := List.mem_singleton.mp h
      cases hs
    · cases h
  | seq first second ih₁ ih₂ =>
    obtain ⟨r₁, hr₁, r₂, hr₂, rfl⟩ := mem_placed_seq.mp h
    rcases List.mem_append.mp hs with hs | hs
    · obtain ⟨body, hbody, hspot⟩ := ih₁ hr₁ hs
      exact ⟨body, List.mem_append_left _ hbody, hspot⟩
    · obtain ⟨body, hbody, hspot⟩ := ih₂ hr₂ hs
      rw [List.append_assoc, taken_append_rest_of_mem_placed hr₁] at hspot
      exact ⟨body, List.mem_append_right _ hbody, hspot⟩
  | either preferred other ih₁ ih₂ =>
    rcases List.mem_append.mp h with h | h
    · obtain ⟨body, hbody, hspot⟩ := ih₁ h hs
      exact ⟨body, List.mem_append_left _ hbody, hspot⟩
    · obtain ⟨body, hbody, hspot⟩ := ih₂ h hs
      exact ⟨body, List.mem_append_right _ hbody, hspot⟩
  | many round ih =>
    obtain rfl := List.mem_singleton.mp h
    obtain ⟨front, back, hsplit, r, hr, hs⟩ :=
      mem_parts_placedRounds (fun _ _ _ => taken_append_rest_of_mem_placed) hs
    rw [← hsplit]
    exact ih hr hs
  | part name body ih =>
    obtain ⟨r, hr, rfl⟩ := List.mem_map.mp h
    rcases List.mem_cons.mp hs with rfl | hs
    · have hsplit := taken_append_rest_of_mem_placed hr
      refine ⟨body, List.mem_cons_self, ⟨r, ?_, rfl, rfl⟩, ?_⟩
      · rwa [hsplit]
      · rw [hsplit]
    · obtain ⟨inner, hinner, hspot⟩ := ih hr hs
      exact ⟨inner, List.mem_cons_of_mem _ hinner, hspot⟩

theorem name_mem_names (h : r ∈ p.placed before text) : ∀ s ∈ r.parts, s.1.name ∈ p.names := by
  intro s hs
  obtain ⟨body, hbody, -⟩ := exists_body_of_mem_parts h hs
  rw [← map_fst_bodies]
  exact List.mem_map_of_mem hbody

theorem parts_eq_nil (hp : p.names = []) (h : r ∈ p.placed before text) : r.parts = [] := by
  refine List.eq_nil_iff_forall_not_mem.mpr fun s hs => ?_
  have hname := name_mem_names h s hs
  rw [hp] at hname
  cases hname

end Pattern

end SchemaShell
