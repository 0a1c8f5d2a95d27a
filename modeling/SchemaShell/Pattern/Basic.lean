import SchemaShell.Text.Ascii

/-!
# Patterns

A pattern reads a text from its front. A run of one class of characters and a repetition take as
much as fits and give nothing back. A choice may be taken either way: every reading of the first
way comes before every reading of the second. `Pattern.readings` lists the readings of a text in
this order of preference, and the preferred reading is the first of them.
-/

namespace SchemaShell

inductive CharClass where
  | blank
  | letter
  | digit
  | alphanumeric
  | alphanumericOrBlank
  deriving DecidableEq, Repr

def CharClass.holds : CharClass → Char → Bool
  | .blank, c => Text.isBlank c
  | .letter, c => c.isAlpha
  | .digit, c => c.isDigit
  | .alphanumeric, c => c.isAlphanum
  | .alphanumericOrBlank, c => c.isAlphanum || Text.isBlank c

/-- Patterns whose parts are named by `ι`. -/
inductive Pattern (ι : Type) where
  | nothing
  | mark (c : Char)
  /-- One character of a class. -/
  | one (cls : CharClass)
  /-- A word in capitals, met in any mixture of ASCII capitals and small letters. -/
  | keyword (word : String)
  /-- The whole run of a class, which has at least `least` characters. -/
  | run (cls : CharClass) (least : Nat)
  /-- The run of a class without its last `short` characters. -/
  | shortRun (cls : CharClass) (short : Nat)
  | seq (first second : Pattern ι)
  | either (preferred other : Pattern ι)
  | many (round : Pattern ι)
  | part (name : ι) (body : Pattern ι)
  deriving Repr

/-- One way to read the front of a text: what was taken, the named parts, and what is left. -/
structure Reading (ι : Type) where
  taken : List Char
  parts : List (ι × List Char)
  rest : List Char
  deriving DecidableEq, Repr

namespace Reading

variable {ι : Type}

def empty (text : List Char) : Reading ι :=
  ⟨[], [], text⟩

def front (n : Nat) (text : List Char) : Reading ι :=
  ⟨text.take n, [], text.drop n⟩

def followedBy (r next : Reading ι) : Reading ι :=
  ⟨r.taken ++ next.taken, r.parts ++ next.parts, next.rest⟩

/-- Keeps all that was taken as a part. -/
def named (r : Reading ι) (name : ι) : Reading ι :=
  ⟨r.taken, (name, r.taken) :: r.parts, r.rest⟩

end Reading

namespace Pattern

variable {ι : Type}

/-! ## Readings -/

/-- Rounds of `step`, each in its preferred reading, until a round fails or takes nothing. -/
def rounds (step : List Char → List (Reading ι)) : Nat → List Char → Reading ι
  | 0, text => .empty text
  | limit + 1, text =>
    match step text with
    | [] => .empty text
    | r :: _ => if r.taken = [] then .empty text else r.followedBy (rounds step limit r.rest)

/-- The readings of the front of a text, the preferred ones first. -/
def readings : Pattern ι → List Char → List (Reading ι)
  | nothing, text => [.empty text]
  | mark c, text => if text.head? = some c then [.front 1 text] else []
  | one cls, text => if (text.take 1).any cls.holds then [.front 1 text] else []
  | keyword word, text =>
    let size := word.toList.length
    if (text.take size).map Char.toUpper = word.toList then [.front size text] else []
  | run cls least, text =>
    let size := (text.takeWhile cls.holds).length
    if least ≤ size then [.front size text] else []
  | shortRun cls short, text =>
    let size := (text.takeWhile cls.holds).length
    if short ≤ size then [.front (size - short) text] else []
  | seq first second, text =>
    (readings first text).flatMap fun r => (readings second r.rest).map r.followedBy
  | either preferred other, text => readings preferred text ++ readings other text
  -- Each round but the last takes at least one character.
  | many round, text => [rounds (readings round) text.length text]
  | part name body, text => (readings body text).map (·.named name)

def read? (p : Pattern ι) (text : List Char) : Option (Reading ι) :=
  (p.readings text).head?

/-- The names of the parts, in the order in which they stand in the pattern. -/
def names : Pattern ι → List ι
  | nothing | mark _ | one _ | keyword _ | run .. | shortRun .. => []
  | seq first second => first.names ++ second.names
  | either preferred other => preferred.names ++ other.names
  | many round => round.names
  | part name body => name :: body.names

/-! ## Derived patterns -/

def optional (p : Pattern ι) : Pattern ι :=
  either p nothing

def oneOrMore (p : Pattern ι) : Pattern ι :=
  seq p (many p)

def inOrder : List (Pattern ι) → Pattern ι
  | [] => nothing
  | [p] => p
  | p :: ps => seq p (inOrder ps)

/-! ## What a reading takes -/

/-- What is taken and what is left make up the text. -/
def Splits (text : List Char) (r : Reading ι) : Prop :=
  r.taken ++ r.rest = text

theorem splits_empty (text : List Char) : Splits text (.empty text : Reading ι) := rfl

theorem splits_front (n : Nat) (text : List Char) : Splits text (.front n text : Reading ι) :=
  List.take_append_drop n text

theorem Splits.followedBy {text : List Char} {r next : Reading ι} (hr : Splits text r)
    (hn : Splits r.rest next) : Splits text (r.followedBy next) := by
  simp only [Splits, Reading.followedBy, List.append_assoc] at *
  rw [hn, hr]

theorem splits_rounds {step : List Char → List (Reading ι)}
    (hstep : ∀ text, ∀ r ∈ step text, Splits text r) (limit : Nat) (text : List Char) :
    Splits text (rounds step limit text) := by
  induction limit generalizing text with
  | zero => exact splits_empty text
  | succ limit ih =>
    rw [rounds]
    split
    · exact splits_empty text
    · next r _ hr =>
      split
      · exact splits_empty text
      · exact (hstep text r (by simp [hr])).followedBy (ih r.rest)

theorem taken_append_rest (p : Pattern ι) (text : List Char) :
    ∀ r ∈ p.readings text, r.taken ++ r.rest = text := by
  change ∀ r ∈ p.readings text, Splits text r
  induction p generalizing text with
  | nothing => simp [readings, splits_empty]
  | mark c | one cls | keyword word | run cls least | shortRun cls short =>
    simp only [readings]
    split <;> simp [splits_front]
  | seq first second ih₁ ih₂ =>
    simp only [readings, List.mem_flatMap, List.mem_map]
    rintro _ ⟨r, hr, next, hn, rfl⟩
    exact (ih₁ text r hr).followedBy (ih₂ r.rest next hn)
  | either preferred other ih₁ ih₂ =>
    intro r hr
    rcases List.mem_append.mp hr with hr | hr
    · exact ih₁ text r hr
    · exact ih₂ text r hr
  | many round ih =>
    simp only [readings, List.mem_singleton]
    rintro _ rfl
    exact splits_rounds (fun t => ih t) _ _
  | part name body ih =>
    simp only [readings, List.mem_map]
    rintro _ ⟨r, hr, rfl⟩
    exact ih text r hr

end Pattern

end SchemaShell
