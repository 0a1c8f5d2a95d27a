import SchemaShell.Regex.Reader.Escape

/-!
# Classes in brackets

A class holds characters, ranges, escapes, classes by name and further classes in brackets; between
two parts an operation on sets may stand, and operations are taken from left to right. A hyphen
stands for itself at the start and at the end, a closing bracket at the start.
-/

namespace SchemaShell.Regex

def SetOperation.ofMark? : Char → Option SetOperation
  | '&' => some intersection
  | '-' => some difference
  | '~' => some symmetricDifference
  | _ => none

/-- The operation whose mark, a character written twice, comes next. -/
def Cursor.operation? (cursor : Cursor) : Option SetOperation :=
  match cursor.rest with
  | first :: second :: _ => if first = second then SetOperation.ofMark? first else none
  | _ => none

/-- A class by name between colons, and how many characters it takes. -/
def Cursor.asciiClass? (cursor : Cursor) : Option (Bool × AsciiClass × Nat) :=
  match cursor.rest with
  | '[' :: ':' :: rest =>
    let negated := rest.head? == some '^'
    let rest := if negated then rest.tail else rest
    let name := rest.takeWhile (· ≠ ':')
    match AsciiClass.named? name, (rest.dropWhile (· ≠ ':')).take 2 with
    | some cls, [':', ']'] => some (negated, cls, name.length + if negated then 5 else 4)
    | _, _ => none
  | _ => none

/-- The part before an operation, and the operation. -/
abbrev LeftPart := Option (SetOperation × ClassTree)

/-- A part together with what stands to the left of it. -/
def LeftPart.combine (left : LeftPart) (part : ClassTree) : ClassTree :=
  match left with
  | none => part
  | some (operation, left) =>
    .operation ⟨left.span.start, part.span.finish⟩ operation left part

namespace Reader

/-- A character or an escape. -/
def classPrimitive (c : Char) : Reader Primitive := do
  if c = '\\' then escape else return .literal (← verbatim c)

def classItem : Primitive → Reader ClassTree
  | .literal literal => return .literal literal
  | .letterClass span negated cls => return .letterClass span negated cls
  | .property span negated name => return .property span negated name
  | .dot span | .assertion span _ => fail .classEscapeInvalid span

def rangeEnd : Primitive → Reader Literal
  | .literal literal => return literal
  | other => fail .classRangeLiteral other.span

/-- A range, or an item that is not followed by a hyphen with an end of a range after it. -/
def rangeOrItem (opening : Span) (c : Char) : Reader ClassTree := do
  let first ← classPrimitive c
  skip
  match ← peek? with
  | none => fail .classUnclosed opening
  | some '-' =>
    let next := (← get).second?
    if next = some ']' ∨ next = some '-' then
      classItem first
    else
      advance
      match ← peek? with
      | none => fail .classUnclosed opening
      | some c =>
        let second ← classPrimitive c
        let span : Span := ⟨first.span.start, second.span.finish⟩
        let low ← rangeEnd first
        let high ← rangeEnd second
        if low.char ≤ high.char then return .range span low high else fail .classRangeInvalid span
  | some _ => classItem first

/-- The hyphens at the start of a class, at most so many. -/
def leadingHyphens (start : Place) : Nat → Reader (List ClassTree)
  | 0 => return []
  | count + 1 => do
    if (← peek?) = some '-' then
      let span ← charSpan
      advance
      if ← atEnd then
        fail .classUnclosed (.point start)
      return .literal ⟨span, '-', false⟩ :: (← leadingHyphens start count)
    else
      return []

/-- The closing bracket that stands for itself. -/
def leadingBracket (start : Place) : Reader (List ClassTree) := do
  if (← peek?) = some ']' then
    let span ← charSpan
    advance
    if ← atEnd then
      fail .classUnclosed (← since start)
    return [.literal ⟨span, ']', false⟩]
  else
    return []

/-- The start of a class: whether it is negated, where its items start, and the first of them, at
most so many. -/
def openBrackets (start : Place) (steps : Nat) : Reader (Bool × Place × List ClassTree) := do
  advance
  if ← atEnd then
    fail .classUnclosed (← since start)
  let negated := (← peek?) == some '^'
  if negated then
    advance
    if ← atEnd then
      fail .classUnclosed (← since start)
  let place ← here
  let hyphens ← leadingHyphens start steps
  let items ← if hyphens.isEmpty then leadingBracket start else pure hyphens
  return (negated, place, items)

mutual

def brackets : Nat → Reader ClassTree
  | 0 => do fail .classUnclosed (← hereSpan)
  | steps + 1 => do
    let start ← here
    let (negated, place, items) ← openBrackets start steps
    let opening ← since start
    let body ← bracketsBody steps opening place items.reverse none
    bump
    return .brackets (← since start) negated body

/-- The items up to the closing bracket; `items` are those since the last operation, the last one
first, and `place` is where they start. -/
def bracketsBody : Nat → Span → Place → List ClassTree → LeftPart → Reader ClassTree
  | 0, opening, _, _, _ => fail .classUnclosed opening
  | steps + 1, opening, place, items, left => do
    skip
    match ← peek? with
    | none => fail .classUnclosed opening
    | some ']' => return left.combine (.ofItems place items.reverse)
    | some '[' =>
      match (← get).asciiClass? with
      | some (negated, cls, length) =>
        let start ← here
        modify fun cursor => (List.range length).foldl (fun cursor _ => cursor.bump) cursor
        bracketsBody steps opening place (.ascii (← since start) negated cls :: items) left
      | none =>
        let inner ← brackets steps
        bracketsBody steps opening place (inner :: items) left
    | some c =>
      match (← get).operation? with
      | some operation =>
        bump
        bump
        let part := left.combine (.ofItems place items.reverse)
        bracketsBody steps opening (← here) [] (some (operation, part))
      | none =>
        let item ← rangeOrItem opening c
        bracketsBody steps opening place (item :: items) left

end

end Reader

end SchemaShell.Regex
