import SchemaShell.Regex.Place

/-!
# Pattern trees

What a pattern says, as it is written: each part with the span where it stands.
-/

namespace SchemaShell.Regex

/-! ## Parts of one character or none -/

structure Literal where
  span : Span
  char : Char
  /-- Whether it is written as a byte, by two hexadecimal digits. -/
  byte : Bool
  deriving DecidableEq, Repr

/-- The classes with a letter of their own. -/
inductive LetterClass where
  | digit
  | space
  | word
  deriving DecidableEq, Repr

/-- The classes within ASCII that are written between colons. -/
inductive AsciiClass where
  | alnum | alpha | ascii | blank | cntrl | digit | graph
  | lower | print | punct | space | upper | word | xdigit
  deriving DecidableEq, Repr

namespace AsciiClass

def name : AsciiClass → String
  | alnum => "alnum"
  | alpha => "alpha"
  | ascii => "ascii"
  | blank => "blank"
  | cntrl => "cntrl"
  | digit => "digit"
  | graph => "graph"
  | lower => "lower"
  | print => "print"
  | punct => "punct"
  | space => "space"
  | upper => "upper"
  | word => "word"
  | xdigit => "xdigit"

def all : List AsciiClass :=
  [alnum, alpha, ascii, blank, cntrl, digit, graph, lower, print, punct, space, upper, word, xdigit]

def named? (name : List Char) : Option AsciiClass :=
  all.find? (·.name.toList == name)

end AsciiClass

/-- The name by which a class of Unicode is asked for. -/
inductive ClassName where
  | single (name : List Char)
  | valued (property value : List Char)
  deriving DecidableEq, Repr

/-- What an assertion says about a place. -/
inductive Assertion where
  | lineStart
  | lineEnd
  | textStart
  | textEnd
  | wordBoundary
  | notWordBoundary
  | wordStart
  | wordEnd
  | wordStartHalf
  | wordEndHalf
  deriving DecidableEq, Repr

inductive Primitive where
  | literal (literal : Literal)
  | dot (span : Span)
  | assertion (span : Span) (assertion : Assertion)
  | letterClass (span : Span) (negated : Bool) (cls : LetterClass)
  | property (span : Span) (negated : Bool) (name : ClassName)
  deriving DecidableEq, Repr

def Primitive.span : Primitive → Span
  | literal part => part.span
  | dot span | assertion span _ | letterClass span .. | property span .. => span

/-! ## Classes in brackets -/

inductive SetOperation where
  | intersection
  | difference
  | symmetricDifference
  deriving DecidableEq, Repr

inductive ClassTree where
  | literal (literal : Literal)
  | range (span : Span) (low high : Literal)
  | ascii (span : Span) (negated : Bool) (cls : AsciiClass)
  | letterClass (span : Span) (negated : Bool) (cls : LetterClass)
  | property (span : Span) (negated : Bool) (name : ClassName)
  | brackets (span : Span) (negated : Bool) (body : ClassTree)
  /-- Several items, or none. -/
  | union (span : Span) (items : List ClassTree)
  | operation (span : Span) (operation : SetOperation) (left right : ClassTree)

namespace ClassTree

def span : ClassTree → Span
  | literal part => part.span
  | range span .. | ascii span .. | letterClass span .. | property span .. | brackets span ..
  | union span _ | operation span .. => span

/-- Items one after the other; a single one stands for itself. `place` is where none would be. -/
def ofItems (place : Place) : List ClassTree → ClassTree
  | [] => union (.point place) []
  | [item] => item
  | item :: items =>
    union ⟨item.span.start, ((items.getLast?).getD item).span.finish⟩ (item :: items)

end ClassTree

/-! ## Patterns -/

inductive Flag where
  | ignoreCase
  | multiLine
  | dotAll
  | swapGreed
  | unicode
  | carriageReturn
  | loose
  deriving DecidableEq, Repr

def Flag.ofLetter? : Char → Option Flag
  | 'i' => some ignoreCase
  | 'm' => some multiLine
  | 's' => some dotAll
  | 'U' => some swapGreed
  | 'u' => some unicode
  | 'R' => some carriageReturn
  | 'x' => some loose
  | _ => none

/-- Flags with what each is set to. -/
abbrev FlagSettings := List (Flag × Bool)

/-- What the settings say about a flag. -/
def FlagSettings.get? (settings : FlagSettings) (flag : Flag) : Option Bool :=
  (settings.find? (·.1 == flag)).map (·.2)

inductive Tree where
  | empty (span : Span)
  | primitive (primitive : Primitive)
  | flags (span : Span) (settings : FlagSettings)
  | brackets (span : Span) (negated : Bool) (body : ClassTree)
  | repetition (span : Span) (least : Nat) (most : Option Nat) (greedy : Bool) (body : Tree)
  /-- A group, which keeps what it takes under its number if it has one. -/
  | group (span : Span) (number : Option Nat) (settings : FlagSettings) (body : Tree)
  | sequence (span : Span) (items : List Tree)
  | alternatives (span : Span) (items : List Tree)

namespace Tree

def span : Tree → Span
  | primitive part => part.span
  | empty span | flags span _ | brackets span .. | repetition span .. | group span ..
  | sequence span _ | alternatives span _ => span

def ofSequence (span : Span) : List Tree → Tree
  | [] => empty span
  | [item] => item
  | items => sequence span items

def ofAlternatives (span : Span) : List Tree → Tree
  | [item] => item
  | items => alternatives span items

/-- Whether there is nothing that could be repeated. -/
def isBare : Tree → Bool
  | empty _ | flags .. => true
  | _ => false

end Tree

/-! ## Nesting -/

/-- How deep the parts of a pattern may be nested. -/
def nestingLimit : Nat := 250

mutual

/-- The first part below so many others that lies too deep. -/
def ClassTree.tooDeep? (depth : Nat) : ClassTree → Option Span
  | .brackets span _ body =>
    if nestingLimit ≤ depth then some span else body.tooDeep? (depth + 1)
  | .union span items =>
    if items.isEmpty then none
    else if nestingLimit ≤ depth then some span
    else ClassTree.anyTooDeep? (depth + 1) items
  | .operation span _ left right =>
    if nestingLimit ≤ depth then some span
    else (left.tooDeep? (depth + 1)).or (right.tooDeep? (depth + 1))
  | _ => none

def ClassTree.anyTooDeep? (depth : Nat) : List ClassTree → Option Span
  | [] => none
  | item :: items => (item.tooDeep? depth).or (ClassTree.anyTooDeep? depth items)

end

mutual

/-- The first part below so many others that lies too deep. -/
def Tree.tooDeep? (depth : Nat) : Tree → Option Span
  | .brackets span _ body =>
    if nestingLimit ≤ depth then some span else body.tooDeep? (depth + 1)
  | .repetition span _ _ _ body | .group span _ _ body =>
    if nestingLimit ≤ depth then some span else body.tooDeep? (depth + 1)
  | .sequence span items | .alternatives span items =>
    if nestingLimit ≤ depth then some span else Tree.anyTooDeep? (depth + 1) items
  | _ => none

def Tree.anyTooDeep? (depth : Nat) : List Tree → Option Span
  | [] => none
  | item :: items => (item.tooDeep? depth).or (Tree.anyTooDeep? depth items)

end

end SchemaShell.Regex
