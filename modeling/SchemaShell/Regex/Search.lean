import SchemaShell.Regex.Basic
import Std.Data.HashMap

/-!
# Searching

Which pieces of a text an expression takes. Only whether a piece is found is asked for, so a search
goes through all ways at once. It follows the set of places that can be reached, and the set is a
number whose bits are the places, the start of the text being the lowest. A loop is gone through
from each place only once, however the loops are nested: it is kept from which places that was done.
-/

namespace SchemaShell.Regex

/-! ## Sets of places -/

/-- A set of places in a text, a bit for each. -/
abbrev Places := Nat

namespace Places

def ofBool (holds : Bool) : Places :=
  if holds then 1 else 0

def before (set : Unicode.Ranges) : List Char → Places
  | [] => 0
  | c :: text => (before set text <<< 1) ||| ofBool (set.has c.toNat)

/-- The places as a look asks for them; `previous` is the character before the text. -/
def ofLook (look : Look) (previous : Option Char) : List Char → Places
  | [] => ofBool (look.holds previous none)
  | c :: text => (ofLook look (some c) text <<< 1) ||| ofBool (look.holds previous (some c))

def all (length : Nat) : Places :=
  (1 <<< (length + 1)) - 1

def without (places others : Places) : Places :=
  places ^^^ (places &&& others)

end Places

/-! ## Routes -/

/-- An expression on a text: each step and condition with the places where it can be taken. The
loops of a route have numbers. Those of a part come before those of what follows it, and every copy
of a body has numbers of its own; `loops` is how many the first part or one copy of the body has. -/
inductive Route where
  | stay
  | step (places : Places)
  | condition (places : Places)
  | andThen (loops : Nat) (first rest : Route)
  | orElse (loops : Nat) (first others : Route)
  /-- The body so many times. -/
  | copies (loops count : Nat) (body : Route)
  /-- The body at most so many times. -/
  | upTo (loops count : Nat) (body : Route)
  /-- The body once or several times. -/
  | loop (body : Route)

namespace Route

def loops : Route → Nat
  | stay | step _ | condition _ => 0
  | andThen count _ rest => count + rest.loops
  | orElse count _ others => count + others.loops
  | copies loops count _ | upTo loops count _ => loops * count
  | loop body => body.loops + 1

/-- One step for each character. -/
def ofLiteral (text : List Char) (literal : List Char) : Route :=
  literal.foldr (fun c rest => andThen 0 (step (.before (.single c.toNat) text)) rest) stay

/-- So many copies of a body that has to be taken, and then so many that can be left out; without a
limit there is a loop. More copies than the text has places reach nothing new: one of them takes no
character and can be left out or doubled. -/
def repeated (enough least : Nat) (most : Option Nat) (body : Route) : Route :=
  let row (count : Nat) (rest : Route) : Route :=
    let count := min count enough
    andThen (body.loops * count) (copies body.loops count body) rest
  match most with
  | some most => row least (upTo body.loops (min (most - least) enough) body)
  | none => row (least - 1) (if least = 0 then orElse 0 stay (loop body) else loop body)

def ofRegex (text : List Char) : Regex → Route
  | .empty => stay
  | .literal chars => ofLiteral text chars
  | .step _ set => step (.before set text)
  | .condition look => condition (.ofLook look none text)
  | .captured _ body => ofRegex text body
  | .repeated least most _ body => repeated (text.length + 2) least most (ofRegex text body)
  | .andThen first rest =>
    let first := ofRegex text first
    andThen first.loops first (ofRegex text rest)
  | .orElse first others =>
    let first := ofRegex text first
    orElse first.loops first (ofRegex text others)

end Route

/-! ## Going on -/

/-- A search keeps from which places each loop was gone through. -/
abbrev Search := StateM (Std.HashMap Nat Places)

namespace Search

/-- The places from which a loop was not gone through before. From now on it was. -/
def enter (number : Nat) (places : Places) : Search Places := do
  let seen := (← get).getD number 0
  modify (·.insert number (seen ||| places))
  return places.without seen

/-- Goes through so many copies. -/
def copies (go : Nat → Places → Search Places) (loops : Nat) :
    Nat → Nat → Places → Search Places
  | 0, _, places => return places
  | count + 1, number, places => do
    let next ← go number places
    if next = 0 then return 0
    copies go loops count (number + loops) next

/-- Gathers what is reached by going through at most so many copies. Whatever can be reached from a
place that was reached before can be reached without coming back to it. -/
def upTo (go : Nat → Places → Search Places) (loops : Nat) :
    Nat → Nat → Places → Places → Search Places
  | 0, _, _, reached => return reached
  | count + 1, number, places, reached => do
    let next := (← go number places).without reached
    if next = 0 then return reached
    upTo go loops count (number + loops) next (reached ||| next)

/-- Gathers what is reached by going through a loop. As long as it goes on, each time there is a
place that was not entered before. -/
def around (go : Places → Search Places) (number : Nat) :
    Nat → Places → Places → Search Places
  | 0, _, reached => return reached
  | times + 1, places, reached => do
    let places ← enter number places
    if places = 0 then return reached
    let next ← go places
    around go number times next (reached ||| next)

end Search

/-- Goes on from a set of places, in a text of so many characters, by a route whose loops are
numbered from a number on. What was reached by the same route before may be left out. -/
def reach (length : Nat) : Route → Nat → Places → Search Places
  | .stay, _, places => return places
  | .step set, _, places => return (places &&& set) <<< 1
  | .condition set, _, places => return places &&& set
  | .andThen loops first rest, number, places => do
    let next ← reach length first number places
    if next = 0 then return 0
    reach length rest (number + loops) next
  | .orElse loops first others, number, places => do
    let found ← reach length first number places
    return found ||| (← reach length others (number + loops) places)
  | .copies loops count body, number, places =>
    Search.copies (reach length body) loops count number places
  | .upTo loops count body, number, places =>
    Search.upTo (reach length body) loops count number places places
  | .loop body, number, places =>
    Search.around (reach length body (number + 1)) number (length + 2) places 0

/-- Whether a piece of a text, perhaps an empty one, is taken by an expression. -/
def isFoundIn (regex : Regex) (text : List Char) : Bool :=
  ((reach text.length (.ofRegex text regex) 0 (.all text.length)).run {}).1 != 0

end SchemaShell.Regex
