import SchemaShell.Proofs.Pattern.Alike
import SchemaShell.Proofs.Pattern.Language
import SchemaShell.Proofs.Text.Case

/-!
# Patterns that do not count letter case

A pattern whose marks are no letters has the same readings of two texts that differ in the case of
ASCII letters only. And no other folding takes place: what such a pattern takes is ASCII.
-/

namespace SchemaShell

open Text

theorem congruent_recased : Congruent Recased where
  nil := .nil
  append := .append
  eq_nil_iff := Recased.eq_nil_iff

theorem CharClass.caseFree (cls : CharClass) : CaseFree cls.holds := by
  cases cls with
  | blank => exact caseFree_isBlank
  | letter => exact caseFree_isAlpha
  | digit => exact caseFree_isDigit
  | alphanumeric => exact caseFree_isAlphanum
  | alphanumericOrBlank => exact caseFree_isAlphanum.or caseFree_isBlank

namespace Pattern

open Reading

variable {ι : Type} {text other : List Char}

/-! ## Single steps -/

theorem recased_front (h : Recased text other) (n : Nat) :
    Alike Recased (.front n text : Reading ι) (.front n other) :=
  ⟨h.take n, .nil, h.drop n⟩

theorem recased_step {P Q : Prop} [Decidable P] [Decidable Q] (hsame : P ↔ Q) (h : Recased text other)
    (n : Nat) :
    List.Forall₂ (Alike Recased) (if P then [(.front n text : Reading ι)] else [])
      (if Q then [.front n other] else []) := by
  simp only [hsame]
  split
  · exact .cons (recased_front h n) .nil
  · exact .nil

theorem recased_mark {c : Char} (hc : c.isAlpha = false) : Respects Recased (mark c : Pattern ι) := by
  intro text other h
  rw [readings, readings]
  exact recased_step (h.head?_eq_some_iff hc) h 1

theorem recased_run (cls : CharClass) (least : Nat) : Respects Recased (run cls least : Pattern ι) := by
  intro text other h
  have hsize := (h.takeWhile cls.caseFree).length_eq
  simp only [readings, hsize]
  exact recased_step Iff.rfl h _

theorem recased_shortRun (cls : CharClass) (short : Nat) :
    Respects Recased (shortRun cls short : Pattern ι) := by
  intro text other h
  have hsize := (h.takeWhile cls.caseFree).length_eq
  simp only [readings, hsize]
  exact recased_step Iff.rfl h _

theorem recased_one (cls : CharClass) : Respects Recased (one cls : Pattern ι) := by
  intro text other h
  have hfirst := (h.take 1).any_eq cls.caseFree
  rw [readings, readings, hfirst]
  exact recased_step Iff.rfl h 1

theorem recased_keyword (word : String) : Respects Recased (keyword word : Pattern ι) := by
  intro text other h
  have hword : (text.take word.toList.length).map Char.toUpper =
      (other.take word.toList.length).map Char.toUpper := h.take _
  simp only [readings, hword]
  exact recased_step Iff.rfl h _

/-! ## Whole patterns -/

/-- No mark of the pattern is a letter. -/
def caseFree : Pattern ι → Bool
  | mark c => !c.isAlpha
  | nothing | one _ | keyword _ | run .. | shortRun .. => true
  | seq first second => first.caseFree && second.caseFree
  | either preferred other => preferred.caseFree && other.caseFree
  | many round => round.caseFree
  | part _ body => body.caseFree

theorem respects_of_caseFree {p : Pattern ι} (hp : p.caseFree = true) : Respects Recased p := by
  induction p with
  | nothing => exact respects_nothing congruent_recased
  | mark c => exact recased_mark (by simpa [caseFree] using hp)
  | one cls => exact recased_one cls
  | keyword word => exact recased_keyword word
  | run cls least => exact recased_run cls least
  | shortRun cls short => exact recased_shortRun cls short
  | seq first second ih₁ ih₂ =>
    simp only [caseFree, Bool.and_eq_true] at hp
    exact (ih₁ hp.1).seq congruent_recased (ih₂ hp.2)
  | either preferred other ih₁ ih₂ =>
    simp only [caseFree, Bool.and_eq_true] at hp
    exact (ih₁ hp.1).either (ih₂ hp.2)
  | many round ih => exact (ih hp).many congruent_recased
  | part name body ih => exact (ih hp).part name

/-! ## Nothing outside ASCII -/

def Ascii (text : List Char) : Prop :=
  ∀ c ∈ text, c.toNat < 128

theorem toNat_lt_of_isBlank {c : Char} (h : isBlank c = true) : c.toNat < 128 := by
  rw [isBlank_iff] at h
  omega

theorem toNat_lt_of_isAlphanum {c : Char} (h : c.isAlphanum = true) : c.toNat < 128 := by
  rw [isAlphanum_iff, isAlpha_iff, isDigit_iff] at h
  omega

theorem toNat_lt_of_holds {cls : CharClass} {c : Char} (h : cls.holds c = true) : c.toNat < 128 := by
  cases cls with
  | blank => exact toNat_lt_of_isBlank h
  | letter => exact toNat_lt_of_isAlphanum (isAlphanum_of_isAlpha h)
  | digit => exact toNat_lt_of_isAlphanum (isAlphanum_of_isDigit h)
  | alphanumeric => exact toNat_lt_of_isAlphanum h
  | alphanumericOrBlank =>
    rcases Bool.or_eq_true_iff.mp h with h | h
    · exact toNat_lt_of_isAlphanum h
    · exact toNat_lt_of_isBlank h

/-- The marks of the pattern and the letters of its keywords are ASCII. -/
def asciiOnly : Pattern ι → Bool
  | mark c => c.toNat < 128
  | keyword word => word.toList.all fun c => c.toNat < 128
  | nothing | one _ | run .. | shortRun .. => true
  | seq first second => first.asciiOnly && second.asciiOnly
  | either preferred other => preferred.asciiOnly && other.asciiOnly
  | many round => round.asciiOnly
  | part _ body => body.asciiOnly

theorem asciiOnly_eq_madeOf (p : Pattern ι) :
    p.asciiOnly = p.madeOf (fun _ => true) (fun c => c.toNat < 128)
      (fun word => word.toList.all fun c => c.toNat < 128) := by
  induction p with
  | nothing | mark c | one cls | keyword word | run cls least | shortRun cls short => rfl
  | seq first second ih₁ ih₂ | either first second ih₁ ih₂ => simp only [asciiOnly, madeOf, ih₁, ih₂]
  | many round ih => exact ih
  | part name body ih => exact ih

theorem ascii_of_derives {p : Pattern ι} (hp : p.asciiOnly = true) {parts : List (ι × List Char)}
    (h : p.Derives text parts) : Ascii text := by
  rw [asciiOnly_eq_madeOf] at hp
  refine forall_of_madeOf (fun _ _ _ => toNat_lt_of_holds) (fun _ => of_decide_eq_true) ?_ h hp
  -- A keyword is told by its capitals, and a character is as much ASCII as its capital.
  intro word hword c hc
  have hlt := List.all_eq_true.mp hword _ hc
  rw [decide_eq_true_eq, toNat_toUpper] at hlt
  split at hlt <;> omega

theorem ascii_of_read? {p : Pattern ι} (hp : p.asciiOnly = true) {r : Reading ι}
    (h : p.read? text = some r) : Ascii r.taken :=
  ascii_of_derives hp (derives_of_read? h).1

end Pattern

end SchemaShell
