import SchemaShell.Regex.Meaning
import SchemaShell.Regex.Search
import SchemaShell.Session.Journal
import SchemaShell.Text.WhiteSpace

/-!
# Log filters

Which events of the journal are printed. A rule lets events up to a level pass; it may be bound to
sources whose names start with a given text, and then it wins over every rule with a shorter text.
Rules come from a specification such as `warn,sqlight::executor=debug`; a pattern after a slash says
what has to be found in a message besides.
-/

namespace SchemaShell.Launch

open Journal

/-- The least urgent level that passes, `none` if nothing does. -/
abbrev Threshold := Option Level

namespace Threshold

def admits (threshold : Threshold) (level : Level) : Bool :=
  threshold.any fun limit => level.rank ≤ limit.rank

/-- The threshold that a word names, in any mixture of capitals and small letters. -/
def ofWord? (word : List Char) : Option Threshold :=
  let upper := word.map Char.toUpper
  if upper = "OFF".toList then some none
  else (Level.all.find? (·.name.toList == upper)).map some

/-- The threshold for a verbosity that was asked for by options. -/
def ofVerbosity : Nat → Threshold
  | 0 => some .warn
  | 1 => some .info
  | 2 => some .debug
  | _ => some .trace

end Threshold

structure Rule where
  /-- The start of the names of the sources, `none` for all sources. -/
  source : Option String
  threshold : Threshold
  deriving DecidableEq, Repr

def Rule.appliesTo (rule : Rule) (source : String) : Bool :=
  rule.source.all fun start => start.toList.isPrefixOf source.toList

/-- The length of the start in bytes. -/
def Rule.weight (rule : Rule) : Nat :=
  (rule.source.map String.utf8ByteSize).getD 0

structure LogFilter where
  rules : List Rule
  /-- What has to be found in messages. -/
  wanted : Option Regex
  deriving DecidableEq, Repr

namespace LogFilter

def ofVerbosity (verbosity : Nat) : LogFilter :=
  ⟨[⟨none, .ofVerbosity verbosity⟩], none⟩

def withRule (filter : LogFilter) (rule : Rule) : LogFilter :=
  if filter.rules.any (·.source == rule.source) then
    { filter with rules := filter.rules.map fun r => if r.source = rule.source then rule else r }
  else
    { filter with rules := filter.rules ++ [rule] }

/-- The rule that decides on a source: the last of the heaviest that apply. -/
def deciding? (filter : LogFilter) (source : String) : Option Rule :=
  ((filter.rules.filter (·.appliesTo source)).mergeSort (·.weight ≤ ·.weight)).getLast?

def passes (filter : LogFilter) (event : Event) : Bool :=
  ((filter.deciding? event.source.name).any fun rule => rule.threshold.admits event.level) &&
    filter.wanted.all (·.isFoundIn event.message.toList)

/-! ## Specifications -/

def splitAt (mark : Char) (text : List Char) : List (List Char) :=
  text.splitOn mark

def allLevels : Threshold := some .trace

/-- The rule that one part of a specification writes, or the text that is wrong in it. -/
def parseRule (part : List Char) : Except String Rule :=
  match splitAt '=' part with
  | [word] =>
    match Threshold.ofWord? word with
    | some threshold => .ok ⟨none, threshold⟩
    | none => .ok ⟨some (String.ofList word), allLevels⟩
  | [source, word] =>
    let word := Text.trim word
    if word = [] then .ok ⟨some (String.ofList source), allLevels⟩
    else
      match Threshold.ofWord? word with
      | some threshold => .ok ⟨some (String.ofList source), threshold⟩
      | none => .error (String.ofList word)
  | _ => .error (String.ofList part)

def warning (what : String) : String :=
  "warning: invalid logging spec '" ++ what ++ "', ignoring it"

/-- Adds the rules of a list of parts, and tells which parts are wrong. -/
def withParts (filter : LogFilter) : List (List Char) → LogFilter × List String
  | [] => (filter, [])
  | part :: parts =>
    match parseRule part with
    | .ok rule => (filter.withRule rule).withParts parts
    | .error what =>
      let (filter, warnings) := filter.withParts parts
      (filter, warning what :: warnings)

def parts (text : List Char) : List (List Char) :=
  ((splitAt ',' text).map Text.trim).filter (· ≠ [])

/-- Adds the pattern after the slash, unless it cannot be used. -/
def withPattern (filter : LogFilter) (pattern : String) : LogFilter × List String :=
  match Regex.parse pattern with
  | .ok regex => ({ filter with wanted := some regex }, [])
  | .error rejection =>
    (filter, ["warning: invalid regex filter - " ++ rejection.message ++ ", ignoring it"])

/-- Adds what a specification says. A slash ends the rules and starts the pattern. -/
def withSpec (filter : LogFilter) (spec : String) : LogFilter × List String :=
  match splitAt '/' spec.toList with
  | [rules] => filter.withParts (parts rules)
  | [rules, pattern] =>
    let (ruled, ruleWarnings) := filter.withParts (parts rules)
    let (complete, patternWarnings) := ruled.withPattern (String.ofList pattern)
    (complete, ruleWarnings ++ patternWarnings)
  | _ => (filter, ["warning: invalid logging spec '" ++ spec ++ "' (too many '/'s), ignoring it"])

end LogFilter

def logLine (event : Event) : String :=
  let level := event.level.name
  let padding := String.ofList (List.replicate (5 - level.length) ' ')
  "[" ++ level ++ padding ++ " " ++ event.source.name ++ "] " ++ event.message

end SchemaShell.Launch
