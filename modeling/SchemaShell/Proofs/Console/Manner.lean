import SchemaShell.Console.Dialogue
import SchemaShell.Proofs.Session.Reachable

/-!
# The two manners of a console

A console runs a script or talks to a user. Either way what it does about one thing received is the
same in two respects: at most one line is put to the session, and only some things end the
dialogue. From these two alone follows what a whole dialogue does to its session and how it ends.
-/

namespace SchemaShell.Console

variable {σ : Type}

inductive Manner where
  | script
  | interactive (prompt : String)

namespace Manner

variable {manner : Manner} {received : Received}

def mode (handler : Handler σ) (quiet : Bool) : Manner → Mode σ
  | script => .script handler quiet
  | interactive prompt => .interactive handler quiet prompt

/-- The line that is put to the session. -/
def command? : Manner → Received → Option String
  | script, .line line => some line
  | interactive _, .line line => if Directive.ofLine? line = none then some line else none
  | _, .blank | _, .notText | _, .finished | _, .failed _ => none

/-- The result of a dialogue that ends here. -/
def ending? : Manner → Received → Option (Except Fault Unit)
  | script, .line _ => none
  | interactive _, .line line => if Directive.ofLine? line = some .stop then some (.ok ()) else none
  | _, .blank => none
  | script, .notText => some (.error .notText)
  | interactive _, .notText => none
  | _, .finished => some (.ok ())
  | script, .failed fault => some (.error fault)
  | interactive _, .failed fault => if fault.kind = .invalidData then none else some (.error fault)

def goesOn (manner : Manner) (received : Received) : Bool :=
  (manner.ending? received).isNone

/-! ## One thing received -/

theorem session_toCommand (handler : Handler σ) (quiet : Bool) (session : Session σ) (line : String) :
    (Reaction.toCommand handler quiet session line).session =
      (session.process handler line).session := by
  simp only [Reaction.toCommand]

theorem text_toCommand (handler : Handler σ) (quiet : Bool) (session : Session σ) (line : String) :
    (Reaction.toCommand handler quiet session line).text =
      render (session.process handler line).session.catalog quiet
        (session.process handler line).outcome := by
  simp only [Reaction.toCommand]

theorem session_react (manner : Manner) (handler : Handler σ) (quiet : Bool) (session : Session σ)
    (received : Received) :
    ((manner.mode handler quiet).react session received).session =
      session.processAll handler (manner.command? received).toList := by
  have hone {line : String} :
      session.processAll handler [line] = (session.process handler line).session := by
    simp only [Session.processAll, List.foldl_cons, List.foldl_nil]
  cases manner with
  | script =>
    cases received with
    | line line => exact (session_toCommand handler quiet session line).trans hone.symm
    | _ => rfl
  | interactive prompt =>
    cases received with
    | line line =>
      simp only [mode, Mode.interactive, interactiveReact, command?]
      rcases Directive.ofLine? line with _ | _ | _
      · exact (session_toCommand handler quiet session line).trans hone.symm
      · rfl
      · rfl
    | failed fault =>
      simp only [mode, Mode.interactive, interactiveReact]
      split <;> rfl
    | _ => rfl

theorem ending_react (manner : Manner) (handler : Handler σ) (quiet : Bool) (session : Session σ)
    (received : Received) :
    ((manner.mode handler quiet).react session received).ending = manner.ending? received := by
  cases manner with
  | script => cases received <;> rfl
  | interactive prompt =>
    cases received with
    | line line =>
      simp only [mode, Mode.interactive, interactiveReact, ending?]
      rcases Directive.ofLine? line with _ | _ | _ <;> rfl
    | failed fault =>
      simp only [mode, Mode.interactive, interactiveReact, ending?]
      split <;> rfl
    | _ => rfl

theorem command?_of_ending? {result : Except Fault Unit} (h : manner.ending? received = some result) :
    manner.command? received = none := by
  cases manner with
  | script => cases received <;> first | rfl | cases h
  | interactive prompt =>
    cases received with
    | line line =>
      simp only [ending?] at h
      split at h
      · rename_i hstop
        simp [command?, hstop]
      · cases h
    | _ => rfl

end Manner

/-! ## Without a limit on the output -/

section

variable {mode : Mode σ} {session : Session σ} {received : Received} {rest : List Received}

theorem say_unlimited (session : Session σ) (text : String) (next : Sink → Transcript σ) :
    say .unlimited session text next = (next .unlimited).afterOutput (Text.bytes text) := rfl

theorem converse_of_ending {result : Except Fault Unit}
    (h : (mode.react session received).ending = some result) :
    converse mode .unlimited session (received :: rest) =
      ⟨result, Text.bytes mode.prompt ++ (Text.bytes (mode.react session received).text ++ []),
        (mode.react session received).session, (mode.react session received).events ++ []⟩ := by
  simp only [converse_cons, say_unlimited, h]
  rfl

theorem converse_of_goesOn {after : Transcript σ}
    (h : (mode.react session received).ending = none)
    (hafter : converse mode .unlimited (mode.react session received).session rest = after) :
    converse mode .unlimited session (received :: rest) =
      ⟨after.result,
        Text.bytes mode.prompt ++ (Text.bytes (mode.react session received).text ++ after.output),
        after.session, (mode.react session received).events ++ after.events⟩ := by
  simp only [converse_cons, say_unlimited, h, hafter]
  rfl

end

namespace Manner

/-- The session takes the commands before the first ending, and that ending gives the result. -/
theorem converse_eq (manner : Manner) (handler : Handler σ) (quiet : Bool) (session : Session σ)
    (all : List Received) :
    let t := converse (manner.mode handler quiet) .unlimited session all
    t.session =
        session.processAll handler ((all.takeWhile manner.goesOn).filterMap manner.command?) ∧
      t.result = (all.findSome? manner.ending?).getD (.ok ()) := by
  -- What is received first either ends the dialogue, and then is no command, or leaves a session with
  -- its command processed.
  induction all generalizing session with
  | nil => exact ⟨rfl, rfl⟩
  | cons received rest ih =>
    have hsession := session_react manner handler quiet session received
    have hending := ending_react manner handler quiet session received
    cases h : manner.ending? received with
    | some result =>
      rw [h] at hending
      rw [command?_of_ending? h] at hsession
      rw [List.takeWhile_cons_of_neg (by simp [goesOn, h]), List.findSome?_cons, h,
        converse_of_ending hending]
      exact ⟨hsession, rfl⟩
    | none =>
      rw [h] at hending
      have hrest := ih ((manner.mode handler quiet).react session received).session
      rw [List.takeWhile_cons_of_pos (by simp [goesOn, h]), List.findSome?_cons, h,
        converse_of_goesOn hending rfl]
      refine ⟨hrest.1.trans ?_, hrest.2⟩
      rw [hsession, ← Session.processAll_append, List.filterMap_cons]
      cases manner.command? received <;> rfl

end Manner

end SchemaShell.Console
