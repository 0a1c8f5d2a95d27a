import SchemaShell.Regex.Look

/-!
# Regular expressions

Expressions in a simple form. A chain of parts and a choice between ways are nested to the right:
the first part of a chain is never a chain itself, nor is the first way of a choice a choice. Parts
that take nothing are left out, literals that follow each other are one, a set of one character is a
literal, and a choice between characters is a set. What all ways of a choice start with stands
before the choice.
-/

namespace SchemaShell

inductive Regex where
  | empty
  | literal (text : List Char)
  /-- One character of a set. A set that was written where Unicode is switched off is of another
  sort than one with the same characters that was not. -/
  | step (ascii : Bool) (set : Unicode.Ranges)
  | condition (look : Regex.Look)
  /-- Keeps what the body takes, under a number that no other group has. -/
  | captured (number : Nat) (body : Regex)
  | repeated (least : Nat) (most : Option Nat) (greedy : Bool) (body : Regex)
  | andThen (first rest : Regex)
  | orElse (first others : Regex)
  deriving DecidableEq, Repr

namespace Regex

/-! ## Parts and ways -/

def parts : Regex → List Regex
  | empty => []
  | andThen first rest => first :: rest.parts
  | regex => [regex]

def ways : Regex → List Regex
  | orElse first others => first :: others.ways
  | regex => [regex]

theorem sizeOf_le_of_mem_parts {part regex : Regex} (h : part ∈ regex.parts) :
    sizeOf part ≤ sizeOf regex := by
  induction regex with
  | empty => simp [parts] at h
  | andThen first rest _ ih =>
    rcases List.mem_cons.mp h with rfl | h
    · simp only [andThen.sizeOf_spec]; omega
    · have := ih h; simp only [andThen.sizeOf_spec]; omega
  | literal | step | condition | captured | repeated | orElse =>
    obtain rfl := List.mem_singleton.mp h; exact Nat.le_refl _

theorem sizeOf_le_of_mem_ways {way regex : Regex} (h : way ∈ regex.ways) :
    sizeOf way ≤ sizeOf regex := by
  induction regex with
  | orElse first others _ ih =>
    rcases List.mem_cons.mp h with rfl | h
    · simp only [orElse.sizeOf_spec]; omega
    · have := ih h; simp only [orElse.sizeOf_spec]; omega
  | empty | literal | step | condition | captured | repeated | andThen =>
    obtain rfl := List.mem_singleton.mp h; exact Nat.le_refl _

theorem sizeOf_lt_of_mem_andThen {part first rest : Regex} (h : part ∈ first :: rest.parts) :
    sizeOf part < sizeOf (andThen first rest) := by
  rcases List.mem_cons.mp h with rfl | h
  · simp only [andThen.sizeOf_spec]; omega
  · have := sizeOf_le_of_mem_parts h; simp only [andThen.sizeOf_spec]; omega

theorem sizeOf_lt_of_mem_orElse {way first others : Regex} (h : way ∈ first :: others.ways) :
    sizeOf way < sizeOf (orElse first others) := by
  rcases List.mem_cons.mp h with rfl | h
  · simp only [orElse.sizeOf_spec]; omega
  · have := sizeOf_le_of_mem_ways h; simp only [orElse.sizeOf_spec]; omega

/-! ## Lengths -/

def byteCount (text : List Char) : Nat :=
  text.foldl (fun count c => count + c.utf8Size) 0

/-- The least number of bytes that are taken; `none` if a way can take nothing in any text. -/
def leastBytes : Regex → Option Nat
  | empty | condition _ => some 0
  | literal text => some (byteCount text)
  | step _ set => set.head?.map fun range => (Char.ofNat range.1).utf8Size
  | captured _ body => body.leastBytes
  | repeated least _ _ body => body.leastBytes.map (least * ·)
  | andThen first rest => do return (← first.leastBytes) + (← rest.leastBytes)
  | orElse first others => do return min (← first.leastBytes) (← others.leastBytes)

/-- Whether nothing but the empty text can be taken. -/
def takesNothing : Regex → Bool
  | empty | condition _ => true
  | literal text => text.isEmpty
  | step .. => false
  | captured _ body => body.takesNothing
  | repeated _ most _ body => most == some 0 || (most.isSome && body.takesNothing)
  | andThen first rest => first.takesNothing && rest.takesNothing
  | orElse first others => first.takesNothing && others.takesNothing

/-! ## Sets -/

/-- No text at all. -/
def nothing : Regex :=
  step true []

def ofSet (ascii : Bool) (set : Unicode.Ranges) : Regex :=
  match set, set.single? with
  | [], _ => nothing
  | _, some code => literal [Char.ofNat code]
  | _, none => step ascii set

/-! ## Chains -/

/-- Makes one of literals that follow each other. -/
def joinLiterals : List Regex → List Regex
  | [] => []
  | literal text :: rest =>
    match joinLiterals rest with
    | literal next :: rest => literal (text ++ next) :: rest
    | rest => literal text :: rest
  | part :: rest => part :: joinLiterals rest

def ofParts : List Regex → Regex
  | [] => empty
  | [part] => part
  | part :: rest => andThen part (ofParts rest)

def sequence (items : List Regex) : Regex :=
  ofParts (joinLiterals (items.flatMap parts))

/-! ## Choices -/

def ofWays : List Regex → Regex
  | [] => nothing
  | [way] => way
  | way :: others => orElse way (ofWays others)

/-- The character that a way takes, if it is a literal of one. -/
def char? : Regex → Option Char
  | literal [c] => some c
  | _ => none

def set? : Regex → Option Unicode.Ranges
  | step _ set => some set
  | _ => none

/-- The set that ways stand for if all of them take a given character, or all of them one of a
set. -/
def asSet? (ways : List Regex) : Option Regex :=
  match ways.mapM char?, ways.mapM set? with
  | some chars, _ => some (ofSet false (.ofCodes (chars.map Char.toNat)))
  | none, some sets => some (ofSet false (.ofList sets.flatten))
  | none, none => none

/-- A choice between ways, which is put in another form if there is one. -/
def choiceOr (form? : List Regex → Option Regex) (items : List Regex) : Regex :=
  match items.flatMap ways with
  | [] => nothing
  | [way] => way
  | ways => (form? ways).getD (ofWays ways)

/-- What two rows start with. -/
def commonStart {α : Type} [DecidableEq α] : List α → List α → List α
  | first :: rest, other :: others =>
    if first = other then first :: commonStart rest others else []
  | _, _ => []

/-- The chain of what all ways start with and of a choice between the rest of them. -/
def withoutStart? (ways : List Regex) : Option Regex :=
  match ways.map parts with
  | first :: others =>
    let start := others.foldl commonStart first
    if start ≠ [] ∧ (first :: others).all (2 ≤ ·.length) then
      let rests := (first :: others).map fun parts => sequence (parts.drop start.length)
      some (sequence (start ++ [choiceOr asSet? rests]))
    else
      none
  | [] => none

def choice (items : List Regex) : Regex :=
  choiceOr (fun ways => (asSet? ways).or (withoutStart? ways)) items

/-! ## Repetitions -/

/-- An item so many times. What takes nothing is the same once as several times. -/
def repetition (least : Nat) (most : Option Nat) (greedy : Bool) (item : Regex) : Regex :=
  let least := if item.takesNothing then min least 1 else least
  let most := if item.takesNothing then some ((most.map (min · 1)).getD 1) else most
  if most = some 0 then empty
  else if least = 1 ∧ most = some 1 then item
  else repeated least most greedy item

end Regex

end SchemaShell
