import SchemaShell.Pattern.Basic
import SchemaShell.Regex.Basic

/-!
# Readings of expressions

How an expression is tried at a place of a text. The ways to read what stands there come in an order:
all of the first way of a choice before those of the others, and those of a greedy repetition that go
on before those that stop. What is found in a text is the first reading at the first place that has
one.
-/

namespace SchemaShell.Regex

/-- The readings at a place, the preferred ones first, given the character before the place and the
text behind it. -/
abbrev Matcher := Option Char → List Char → List (Reading Nat)

namespace Matcher

def nothing : Matcher :=
  fun _ text => [.empty text]

/-- The character before what a reading leaves. -/
def lastChar? (before : Option Char) (r : Reading Nat) : Option Char :=
  r.taken.getLast?.or before

def andThen (first second : Matcher) : Matcher :=
  fun before text => (first before text).flatMap fun r =>
    (second (lastChar? before r) r.rest).map r.followedBy

def orElse (preferred other : Matcher) : Matcher :=
  fun before text => preferred before text ++ other before text

def captured (number : Nat) (body : Matcher) : Matcher :=
  fun before text => (body before text).map (·.named number)

/-- At most `limit` rounds of a body, at least `least` and at most `most` of them. Where any number
of rounds may follow, a round that takes nothing is the last one. -/
def rounds (body : Matcher) (greedy : Bool) : Nat → Nat → Option Nat → Matcher
  | 0, least, _ => fun _ text => if least = 0 then [.empty text] else []
  | limit + 1, least, most => fun before text =>
    let stop := if least = 0 then [Reading.empty text] else []
    let more :=
      if most = some 0 then []
      else
        (body before text).flatMap fun r =>
          if r.taken = [] ∧ least ≤ 1 ∧ most = none then [r]
          else
            (rounds body greedy limit (least - 1) (most.map (· - 1)) (lastChar? before r) r.rest).map
              r.followedBy
    if greedy then more ++ stop else stop ++ more

end Matcher

def readings : Regex → Matcher
  | empty => .nothing
  | literal chars => fun _ text =>
    if text.take chars.length = chars then [.front chars.length text] else []
  | step _ set => fun _ text =>
    if (text.take 1).any (set.has ·.toNat) then [.front 1 text] else []
  | condition look => fun before text =>
    if look.holds before text.head? then [.empty text] else []
  | captured number body => body.readings.captured number
  -- Each round takes a character, or is one of those that are counted.
  | repeated least most greedy body => fun before text =>
    body.readings.rounds greedy (least + most.getD 0 + text.length + 1) least most before text
  | andThen first rest => first.readings.andThen rest.readings
  | orElse first others => first.readings.orElse others.readings

/-- What is found in a text behind some character, with the number of characters in front of it. -/
def findFrom? (regex : Regex) (before : Option Char) : List Char → Option (Nat × Reading Nat)
  | [] => (regex.readings before []).head?.map (0, ·)
  | c :: text =>
    match regex.readings before (c :: text) with
    | r :: _ => some (0, r)
    | [] => (findFrom? regex (some c) text).map fun found => (found.1 + 1, found.2)

def find? (regex : Regex) (text : List Char) : Option (Nat × Reading Nat) :=
  regex.findFrom? none text

end SchemaShell.Regex
