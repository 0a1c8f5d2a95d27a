import SchemaShell.Unicode.Age
import SchemaShell.Unicode.Break.Grapheme
import SchemaShell.Unicode.Break.Sentence
import SchemaShell.Unicode.Break.Word
import SchemaShell.Unicode.Property.Names
import SchemaShell.Unicode.Script

/-!
# Classes by name

A class is asked for by the name of a property, a category or a script, or by a property and its
value. In a name capitals, blanks, hyphens, underscores and characters outside ASCII do not count,
and neither does `is` at its start.
-/

namespace SchemaShell.Unicode

/-- What a request does not name. -/
inductive Unknown where
  | property
  | value
  deriving DecidableEq, Repr

/-- What is left of a name without the `is` at its start, in any mixture of letter case. -/
def withoutIs : List Char → List Char
  | first :: second :: rest =>
    if first.toLower = 'i' ∧ second.toLower = 's' then rest else first :: second :: rest
  | name => name

/-- Whether a character of a name counts. -/
def countsInName (c : Char) : Bool :=
  c.toNat < 0x80 && c != ' ' && c != '_' && c != '-'

/-- A name as it is looked up. The name `isc` is kept, since without its start it would be
another. -/
def lookupKey (name : List Char) : String :=
  let kept := ((withoutIs name).filter countsInName).map Char.toLower
  if kept = ['c'] ∧ withoutIs name ≠ name then "isc" else String.ofList kept

/-- The class of a general category, or of a value that stands for several. No character is a
surrogate, so there is no such class. -/
def categoryClass? (key : String) : Option (Except Unknown Ranges) :=
  if key = "any" then some (.ok .full)
  else if key = "assigned" then some (.ok (Category.ranges .cn).complement)
  else if key = "ascii" then some (.ok .ascii)
  else (Category.named? key).map fun categories =>
    if categories = [.cs] then .error .value else .ok (Category.rangesOf categories)

/-- Names of scripts that no character belongs to. -/
def emptyScripts : List String :=
  ["zzzz", "unknown", "hrkt", "katakanaorhiragana"]

def scriptClass? (key : String) : Option (Except Unknown Ranges) :=
  match Script.find? key with
  | some script => some (.ok script.ranges)
  | none => if emptyScripts.contains key then some (.error .value) else none

/-- Names of properties that are taken for categories. -/
def categoriesFirst : List String :=
  ["cf", "sc", "lc"]

def namedClass (name : List Char) : Except Unknown Ranges :=
  let key := lookupKey name
  if Property.isName key && !categoriesFirst.contains key then
    match Property.find? key with
    | some ranges => .ok ranges
    | none => .error .property
  else
    ((categoryClass? key).or (scriptClass? key)).getD (.error .property)

/-- The class of the characters for which a property has a value. -/
def valuedClass (property value : List Char) : Except Unknown Ranges :=
  let key := lookupKey value
  let known (found : Option Ranges) : Except Unknown Ranges :=
    match found with
    | some ranges => .ok ranges
    | none => .error .value
  match lookupKey property with
  | "gc" | "generalcategory" => (categoryClass? key).getD (.error .value)
  | "sc" | "script" => (scriptClass? key).getD (.error .value)
  | "scx" | "scriptextensions" => known ((Script.find? key).map (·.wideRanges))
  | "age" => known (Age.find? key)
  | "gcb" | "graphemeclusterbreak" => known (NamedRanges.find? GraphemeBreak.all key)
  | "wb" | "wordbreak" => known (NamedRanges.find? WordBreak.all key)
  | "sb" | "sentencebreak" => known (NamedRanges.find? SentenceBreak.all key)
  | other => .error (if Property.isName other then .value else .property)

end SchemaShell.Unicode
