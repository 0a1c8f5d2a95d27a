import SchemaShell.Regex.Machine.Size
import SchemaShell.Regex.Openings
import SchemaShell.Regex.Reader.Pattern
import SchemaShell.Unicode.LetterCase
import SchemaShell.Unicode.Lookup

/-!
# Meaning of patterns

The regular expression that a pattern tree stands for under the flags that hold. Where Unicode is
switched off, classes and letter case are those of ASCII, and whatever could take a part of the
encoding of a character is a fault.
-/

namespace SchemaShell.Regex

open Unicode

/-! ## Flags -/

/-- The flags that hold at a part of a pattern. -/
structure Mode where
  ignoreCase : Bool := false
  multiLine : Bool := false
  dotAll : Bool := false
  /-- Repetitions without a question mark take as little as they can, the others as much. -/
  swapGreed : Bool := false
  carriageReturn : Bool := false
  unicode : Bool := true
  deriving DecidableEq, Repr

namespace Mode

def adjust (mode : Mode) (settings : FlagSettings) : Mode where
  ignoreCase := (settings.get? .ignoreCase).getD mode.ignoreCase
  multiLine := (settings.get? .multiLine).getD mode.multiLine
  dotAll := (settings.get? .dotAll).getD mode.dotAll
  swapGreed := (settings.get? .swapGreed).getD mode.swapGreed
  carriageReturn := (settings.get? .carriageReturn).getD mode.carriageReturn
  unicode := (settings.get? .unicode).getD mode.unicode

/-- A set without regard to letter case, if that is to be ignored. -/
def fold (mode : Mode) (set : Ranges) : Ranges :=
  if mode.ignoreCase then (if mode.unicode then Folding.unicode else Folding.ascii).close set
  else set

/-- A set or, if it is negated, all other characters. -/
def negate (mode : Mode) (span : Span) (negated : Bool) (set : Ranges) : Except Fault Ranges :=
  if negated then
    if mode.unicode then .ok set.complement else .error ⟨.invalidBytes, span, none⟩
  else
    .ok set

/-- The character that a literal stands for. A byte is a character only within ASCII, unless
Unicode gives it one. -/
def char (mode : Mode) (literal : Literal) : Except Fault Char :=
  if !mode.unicode && literal.byte && 0x80 ≤ literal.char.toNat then
    .error ⟨.invalidBytes, literal.span, none⟩
  else
    .ok literal.char

def classChar (mode : Mode) (literal : Literal) : Except Fault Char := do
  let char ← mode.char literal
  if !mode.unicode && 0x80 ≤ char.toNat then
    throw ⟨.unicodeNotAllowed, literal.span, none⟩
  return char

end Mode

/-! ## Classes -/

def AsciiClass.ranges : AsciiClass → Ranges
  | alnum => [(0x30, 0x39), (0x41, 0x5A), (0x61, 0x7A)]
  | alpha => [(0x41, 0x5A), (0x61, 0x7A)]
  | ascii => [(0x00, 0x7F)]
  | blank => [(0x09, 0x09), (0x20, 0x20)]
  | cntrl => [(0x00, 0x1F), (0x7F, 0x7F)]
  | digit => [(0x30, 0x39)]
  | graph => [(0x21, 0x7E)]
  | lower => [(0x61, 0x7A)]
  | print => [(0x20, 0x7E)]
  | punct => [(0x21, 0x2F), (0x3A, 0x40), (0x5B, 0x60), (0x7B, 0x7E)]
  | space => [(0x09, 0x0D), (0x20, 0x20)]
  | upper => [(0x41, 0x5A)]
  | word => [(0x30, 0x39), (0x41, 0x5A), (0x5F, 0x5F), (0x61, 0x7A)]
  | xdigit => [(0x30, 0x39), (0x41, 0x46), (0x61, 0x66)]

def LetterClass.ranges (unicode : Bool) (cls : LetterClass) : Ranges :=
  match cls with
  | digit => if unicode then Category.ranges .nd else AsciiClass.digit.ranges
  | space => if unicode then Property.whiteSpace else AsciiClass.space.ranges
  | word => if unicode then wordSet else asciiWordSet

def ClassName.find (name : ClassName) : Except Unknown Ranges :=
  match name with
  | single name => namedClass name
  | valued property value => valuedClass property value

/-- The cause of a fault for a class that is not known. -/
def causeOf : Unknown → Cause
  | .property => .propertyNotFound
  | .value => .propertyValueNotFound

namespace Mode

/-- The set of a class with a letter of its own, which is the same for both cases of a letter. -/
def letterClassSet (mode : Mode) (span : Span) (negated : Bool) (cls : LetterClass) :
    Except Fault Ranges :=
  mode.negate span negated (cls.ranges mode.unicode)

def propertySet (mode : Mode) (span : Span) (negated : Bool) (name : ClassName) :
    Except Fault Ranges :=
  if mode.unicode then
    match name.find with
    | .ok set => mode.negate span negated (mode.fold set)
    | .error unknown => .error ⟨causeOf unknown, span, none⟩
  else
    .error ⟨.unicodeNotAllowed, span, none⟩

end Mode

def SetOperation.apply : SetOperation → Ranges → Ranges → Ranges
  | intersection => .inter
  | difference => .diff
  | symmetricDifference => .symmDiff

mutual

/-- The ranges that a class stands for: those of a union in any order, all others as a set. Letter
case is dealt with where the ranges of brackets or of one side of an operation are complete. -/
def ClassTree.ranges (mode : Mode) : ClassTree → Except Fault (List (Nat × Nat))
  | .literal part => do
    let char ← mode.classChar part
    return [(char.toNat, char.toNat)]
  | .range _ low high => do
    return [((← mode.classChar low).toNat, (← mode.classChar high).toNat)]
  | .ascii span negated cls => mode.negate span negated (mode.fold cls.ranges)
  | .letterClass span negated cls => mode.letterClassSet span negated cls
  | .property span negated name => mode.propertySet span negated name
  | .brackets span negated body => do
    mode.negate span negated (mode.fold (.ofList (← body.ranges mode)))
  | .union _ items => ClassTree.allRanges mode items
  | .operation _ sign left right => do
    let left ← left.ranges mode
    let right ← right.ranges mode
    return sign.apply (mode.fold (.ofList left)) (mode.fold (.ofList right))

def ClassTree.allRanges (mode : Mode) : List ClassTree → Except Fault (List (Nat × Nat))
  | [] => return []
  | item :: items => do
    return (← item.ranges mode) ++ (← ClassTree.allRanges mode items)

end

/-! ## Patterns -/

def Mode.oneOf (mode : Mode) (set : Ranges) : Regex :=
  ofSet (!mode.unicode) set

/-- What an assertion asks about a place. -/
def Assertion.look (mode : Mode) : Assertion → Look
  | lineStart =>
    if mode.multiLine then if mode.carriageReturn then .anyLineStart else .lineStart
    else .textStart
  | lineEnd =>
    if mode.multiLine then if mode.carriageReturn then .anyLineEnd else .lineEnd else .textEnd
  | textStart => .textStart
  | textEnd => .textEnd
  | wordBoundary => .word (!mode.unicode) .boundary
  | notWordBoundary => .word (!mode.unicode) .notBoundary
  | wordStart => .word (!mode.unicode) .start
  | wordEnd => .word (!mode.unicode) .finish
  | wordStartHalf => .word (!mode.unicode) .startHalf
  | wordEndHalf => .word (!mode.unicode) .finishHalf

def Mode.dotSet (mode : Mode) : Ranges :=
  if mode.dotAll then .full
  else if mode.carriageReturn then (Ranges.ofCodes ['\n'.toNat, '\r'.toNat]).complement
  else (Ranges.single '\n'.toNat).complement

def Primitive.meaning (mode : Mode) : Primitive → Except Fault Regex
  | literal part => do
    return mode.oneOf (mode.fold (.single (← mode.char part).toNat))
  | dot span =>
    if mode.unicode then .ok (mode.oneOf mode.dotSet) else .error ⟨.invalidBytes, span, none⟩
  | assertion _ what => .ok (.condition (what.look mode))
  | letterClass span negated cls => do
    return mode.oneOf (← mode.letterClassSet span negated cls)
  | property span negated name => do
    return mode.oneOf (← mode.propertySet span negated name)

/-- A group with a number, or one that only holds together. -/
def grouped (number : Option Nat) (body : Regex) : Regex :=
  match number with
  | some number => .captured number body
  | none => body

mutual

/-- The expression that a part of a pattern stands for, and the flags that hold after it. -/
def Tree.meaning (mode : Mode) : Tree → Except Fault (Regex × Mode)
  | .empty _ => return (.empty, mode)
  | .primitive part => do
    return (← part.meaning mode, mode)
  | .flags _ settings => return (.empty, mode.adjust settings)
  | .brackets span negated body => do
    return (mode.oneOf (← (ClassTree.brackets span negated body).ranges mode), mode)
  | .repetition _ least most greedy body => do
    let (regex, mode) ← body.meaning mode
    return (Regex.repetition least most (greedy != mode.swapGreed) regex, mode)
  | .group _ number settings body => do
    let (regex, _) ← body.meaning (mode.adjust settings)
    return (grouped number regex, mode)
  | .sequence _ items => do
    let (parts, mode) ← Tree.meanings mode items
    return (Regex.sequence parts, mode)
  | .alternatives _ items => do
    let (ways, mode) ← Tree.meanings mode items
    return (Regex.choice ways, mode)

/-- The expressions of parts that are read one after the other. -/
def Tree.meanings (mode : Mode) : List Tree → Except Fault (List Regex × Mode)
  | [] => return ([], mode)
  | item :: items => do
    let (first, mode) ← item.meaning mode
    let (rest, mode) ← Tree.meanings mode items
    return (first :: rest, mode)

end

/-! ## Reading expressions -/

/-- Why a text cannot be used as a pattern. -/
inductive Rejection where
  | faulty (pattern : String) (fault : Fault)
  | tooLarge
  deriving DecidableEq, Repr

def Rejection.message : Rejection → String
  | faulty pattern fault => fault.message pattern.toList
  | tooLarge =>
    "Compiled regex exceeds size limit of " ++ Text.decimal Machine.limit ++ " bytes."

/-- The expression that a text stands for. If its machine would be too large, it may still stand for
few texts. -/
def parse (pattern : String) : Except Rejection Regex :=
  match Tree.read pattern.toList >>= Tree.meaning {} with
  | .ok (regex, _) =>
    if Machine.fits regex then .ok regex
    else
      match regex.fewTexts? with
      | some texts => .ok (choice (texts.map literal))
      | none => .error .tooLarge
  | .error fault => .error (.faulty pattern fault)

end SchemaShell.Regex
