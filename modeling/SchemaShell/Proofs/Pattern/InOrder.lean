import SchemaShell.Proofs.Pattern.Placed
import SchemaShell.Proofs.Pattern.Settled

/-!
# Parts in order

A pattern is flat when no part stands in another one or in a repetition. The parts of a flat pattern are
read from the front of the text to its end, in the order of their names. Some of them are always read.
-/

namespace SchemaShell.Pattern

variable {ι : Type} {p : Pattern ι} {before text : List Char} {r : Reading (Spot ι)}

/-! ## Flat patterns -/

def flat : Pattern ι → Bool
  | nothing | mark _ | one _ | keyword _ | run .. | shortRun .. => true
  | seq first second => first.flat && second.flat
  | either preferred other => preferred.flat && other.flat
  | many round => round.names.isEmpty
  | part _ body => body.names.isEmpty

/-- The first part ends before the second one begins. -/
def Precedes (s t : Spot ι × List Char) : Prop :=
  s.1.before ++ s.2 <+: t.1.before

theorem parts_named {name : ι} {body : Pattern ι} (h : r ∈ (part name body).placed before text)
    (hp : (part name body).flat = true) : r.parts = [(⟨name, before, r.rest⟩, r.taken)] := by
  obtain ⟨inner, hinner, rfl⟩ := List.mem_map.mp h
  have hnone : inner.parts = [] := parts_eq_nil (List.isEmpty_iff.mp hp) hinner
  rw [Reading.named, hnone]

theorem parts_of_many {round : Pattern ι} (h : r ∈ (many round).placed before text)
    (hp : (many round).flat = true) : r.parts = [] := by
  have hnames : (many round).names = [] := List.isEmpty_iff.mp hp
  exact parts_eq_nil hnames h

theorem names_sublist (h : r ∈ p.placed before text) (hp : p.flat = true) :
    (r.parts.map fun s => s.1.name).Sublist p.names := by
  induction p generalizing before text r with
  | nothing | mark c | one cls | keyword word | run cls least | shortRun cls short =>
    simp [parts_eq_nil rfl h]
  | seq first second ih₁ ih₂ =>
    simp only [flat, Bool.and_eq_true] at hp
    obtain ⟨r₁, hr₁, r₂, hr₂, rfl⟩ := mem_placed_seq.mp h
    rw [Reading.followedBy, List.map_append]
    exact (ih₁ hr₁ hp.1).append (ih₂ hr₂ hp.2)
  | either preferred other ih₁ ih₂ =>
    simp only [flat, Bool.and_eq_true] at hp
    rcases List.mem_append.mp h with h | h
    · exact (ih₁ h hp.1).trans (List.sublist_append_left _ _)
    · exact (ih₂ h hp.2).trans (List.sublist_append_right _ _)
  | many round ih => simp [parts_of_many h hp]
  | part name body ih => simp [parts_named h hp, names]

theorem within_of_mem_parts (h : r ∈ p.placed before text) (hp : p.flat = true) :
    ∀ s ∈ r.parts, before <+: s.1.before ∧ s.1.before ++ s.2 <+: before ++ r.taken := by
  induction p generalizing before text r with
  | nothing | mark c | one cls | keyword word | run cls least | shortRun cls short =>
    simp [parts_eq_nil rfl h]
  | seq first second ih₁ ih₂ =>
    simp only [flat, Bool.and_eq_true] at hp
    obtain ⟨r₁, hr₁, r₂, hr₂, rfl⟩ := mem_placed_seq.mp h
    rw [Reading.followedBy, ← List.append_assoc]
    intro s hs
    rcases List.mem_append.mp hs with hs | hs
    · obtain ⟨hfront, hend⟩ := ih₁ hr₁ hp.1 s hs
      exact ⟨hfront, hend.trans (List.prefix_append _ _)⟩
    · obtain ⟨hfront, hend⟩ := ih₂ hr₂ hp.2 s hs
      exact ⟨(List.prefix_append _ _).trans hfront, hend⟩
  | either preferred other ih₁ ih₂ =>
    simp only [flat, Bool.and_eq_true] at hp
    rcases List.mem_append.mp h with h | h
    · exact ih₁ h hp.1
    · exact ih₂ h hp.2
  | many round ih => simp [parts_of_many h hp]
  | part name body ih => simp [parts_named h hp]

theorem pairwise_precedes (h : r ∈ p.placed before text) (hp : p.flat = true) :
    r.parts.Pairwise Precedes := by
  induction p generalizing before text r with
  | nothing | mark c | one cls | keyword word | run cls least | shortRun cls short =>
    simp [parts_eq_nil rfl h]
  | seq first second ih₁ ih₂ =>
    simp only [flat, Bool.and_eq_true] at hp
    obtain ⟨r₁, hr₁, r₂, hr₂, rfl⟩ := mem_placed_seq.mp h
    refine List.pairwise_append.mpr ⟨ih₁ hr₁ hp.1, ih₂ hr₂ hp.2, ?_⟩
    intro s hs t ht
    -- The second pattern reads from the place where the first one stops.
    have hend := (within_of_mem_parts hr₁ hp.1 s hs).2
    have hfront := (within_of_mem_parts hr₂ hp.2 t ht).1
    exact hend.trans hfront
  | either preferred other ih₁ ih₂ =>
    simp only [flat, Bool.and_eq_true] at hp
    rcases List.mem_append.mp h with h | h
    · exact ih₁ h hp.1
    · exact ih₂ h hp.2
  | many round ih => simp [parts_of_many h hp]
  | part name body ih => simp [parts_named h hp]

/-! ## Parts that are always read -/

/-- The names that stand in no choice and in no repetition. -/
def required : Pattern ι → List ι
  | nothing | mark _ | one _ | keyword _ | run .. | shortRun .. | either .. | many _ => []
  | seq first second => first.required ++ second.required
  | part name body => name :: body.required

theorem required_of_derives {parts : List (ι × List Char)} (h : p.Derives text parts) :
    ∀ name ∈ p.required, name ∈ parts.map Prod.fst := by
  induction p generalizing text parts with
  | nothing | mark c | one cls | keyword word | run cls least | shortRun cls short => simp [required]
  | either preferred other ih₁ ih₂ | many round ih => simp [required]
  | seq first second ih₁ ih₂ =>
    obtain ⟨front, back, fronts, backs, hf, hb, -, rfl⟩ := h
    intro name hname
    rw [List.map_append, List.mem_append]
    rcases List.mem_append.mp hname with hname | hname
    · exact Or.inl (ih₁ hf name hname)
    · exact Or.inr (ih₂ hb name hname)
  | part name body ih =>
    obtain ⟨inner, hbody, rfl⟩ := h
    intro other hother
    rw [List.map_cons, List.mem_cons]
    rcases List.mem_cons.mp hother with rfl | hother
    · exact Or.inl rfl
    · exact Or.inr (ih hbody other hother)

/-! ## What the parts take -/

def partsTakeSome (p : Pattern ι) : Bool :=
  p.bodies.all fun b => !b.2.mayVanish

theorem ne_nil_of_mem_parts (h : r ∈ p.placed before text) (hp : p.partsTakeSome = true) :
    ∀ s ∈ r.parts, s.2 ≠ [] := by
  intro s hs hnil
  obtain ⟨body, hbody, ⟨inner, hinner, htaken, -⟩, -⟩ := exists_body_of_mem_parts h hs
  have hsome := List.all_eq_true.mp hp _ hbody
  have hderives := derives_of_mem_placed hinner
  rw [htaken, hnil] at hderives
  simp [mayVanish_of_derives hderives] at hsome

end SchemaShell.Pattern
