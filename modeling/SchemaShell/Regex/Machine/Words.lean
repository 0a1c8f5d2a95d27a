import SchemaShell.Regex.Machine.Build

/-!
# Machines for words

The machine for a choice between words. Words that start alike share the states at the start, unless
a word ends between them: an earlier word comes before the later ones, so what follows the end of a
word is kept apart from what came before it.
-/

namespace SchemaShell.Regex.Machine

abbrev Words := List (List Nat)

/-- Cuts words at the words that are at their end. -/
def sections (words : Words) : List Words :=
  words.splitOn []

/-- The sections after a state. If a word ends before any other goes on, further ends right after it
say nothing new. -/
def sectionsFrom (words : Words) : List Words :=
  match words with
  | [] :: rest => [] :: sections (rest.dropWhile (· == []))
  | _ => sections words

/-- The first bytes of words, each of them once. -/
def firstBytes (words : Words) : List Nat :=
  (words.filterMap List.head?).eraseDups

def restsAfter (byte : Nat) (words : Words) : Words :=
  words.filterMap fun word => if word.head? = some byte then some word.tail else none

/-- The states from which words of at most so many bytes are taken. A state where all words are at
their end is the last one, which is there already. -/
def wordStates : Nat → Words → Build Unit
  | 0, _ => return
  | length + 1, words => do
    if words.all (· == []) then return
    let sections := sectionsFrom words
    let full := sections.filter (· ≠ [])
    full.forM fun words => do
      let bytes := firstBytes words
      bytes.forM fun byte => wordStates length (restsAfter byte words)
      let _ ← if bytes.length = 1 then Build.state else Build.branch bytes.length
    let _ ← Build.state (linkBytes * (full.length + (sections.length - 1)))

def words (words : Words) : Build Unit := do
  let _ ← Build.state
  wordStates (words.foldl (fun longest word => max longest word.length) 0) words

end SchemaShell.Regex.Machine
