import Mathlib.Data.List.ReduceOption
import SchemaShell.Proofs.Console.Lines
import SchemaShell.Proofs.Console.Manner

/-!
# Scripts and dialogues agree

On lines that are text and none of the words of a dialogue both manners of a console do the same to the
session and show the same for every command. All that is left between them is the frame: the prompts,
and what is said about a blank line.
-/

namespace SchemaShell.Console

variable {σ : Type}

/-- What is shown for each of a number of texts, `none` where one is blank. -/
def answers (handler : Handler σ) (quiet : Bool) : Session σ → List String → List (Option String)
  | _, [] => []
  | session, text :: texts =>
    if Blank text then none :: answers handler quiet session texts
    else
      let step := session.process handler (bare text)
      some (render step.session.catalog quiet step.outcome) ::
        answers handler quiet step.session texts

theorem isNone_answers (handler : Handler σ) (quiet : Bool) (session : Session σ)
    (texts : List String) :
    (answers handler quiet session texts).map Option.isNone = texts.map fun text => decide (Blank text) := by
  induction texts generalizing session with
  | nil => rfl
  | cons text texts ih =>
    rw [answers]
    split
    · rename_i hblank
      simp [ih, hblank]
    · rename_i hblank
      simp [ih, hblank]

namespace Manner

/-- What is said about a blank line. -/
def blankReply : Manner → String
  | script => ""
  | interactive _ => ended "Error reading the input. Try again."

/-- The answers with the prompts. -/
def framed (manner : Manner) (prompt : String) (answers : List (Option String)) : String :=
  String.join (answers.map fun answer => prompt ++ answer.getD manner.blankReply) ++ prompt

theorem framed_nil (manner : Manner) (prompt : String) : manner.framed prompt [] = prompt :=
  String.empty_append

theorem framed_cons (manner : Manner) (prompt : String) (answer : Option String)
    (answers : List (Option String)) :
    manner.framed prompt (answer :: answers) =
      prompt ++ (answer.getD manner.blankReply ++ manner.framed prompt answers) := by
  simp only [framed, List.map_cons, String.join_cons, String.append_assoc]

/-! ## One text -/

variable {text : String}

theorem react_blank (manner : Manner) (handler : Handler σ) (quiet : Bool) (session : Session σ)
    (hblank : Blank text) :
    ((manner.mode handler quiet).react session (.ofText text)).session = session ∧
      ((manner.mode handler quiet).react session (.ofText text)).text = manner.blankReply ∧
      ((manner.mode handler quiet).react session (.ofText text)).ending = none := by
  rw [ofText_of_blank hblank]
  cases manner <;> exact ⟨rfl, rfl, rfl⟩

theorem react_command (manner : Manner) (handler : Handler σ) (quiet : Bool) (session : Session σ)
    (hblank : ¬Blank text) (hplain : Directive.ofLine? text = none) :
    (manner.mode handler quiet).react session (.ofText text) =
      .toCommand handler quiet session (bare text) := by
  rw [ofText_of_not_blank hblank]
  cases manner with
  | script => rfl
  | interactive prompt =>
    rw [← Directive.ofLine?_bare] at hplain
    simp only [mode, Mode.interactive, interactiveReact, hplain]

/-! ## All texts -/

theorem converse_texts (manner : Manner) (handler : Handler σ) (quiet : Bool) (session : Session σ)
    {texts : List String} (hplain : ∀ text ∈ texts, Directive.ofLine? text = none) :
    let t := converse (manner.mode handler quiet) .unlimited session
      (texts.map Received.ofText ++ [.finished])
    t.result = .ok () ∧
      t.session = session.processAll handler ((texts.filter fun text => ¬Blank text).map bare) ∧
      t.output = Text.bytes
        (manner.framed (manner.mode handler quiet).prompt (answers handler quiet session texts)) := by
  -- The session of the answers is the session of the dialogue, text by text.
  induction texts generalizing session with
  | nil =>
    have hreact : (manner.mode handler quiet).react session .finished = .stop session (.ok ()) := by
      cases manner <;> rfl
    have hend : ((manner.mode handler quiet).react session .finished).ending = some (.ok ()) := by
      rw [hreact]
      rfl
    rw [List.map_nil, List.nil_append, converse_of_ending hend, hreact, answers, framed_nil]
    exact ⟨rfl, rfl, List.append_nil _⟩
  | cons text texts ih =>
    obtain ⟨hfirst, hrest⟩ := List.forall_mem_cons.mp hplain
    rw [List.map_cons, List.cons_append]
    by_cases hblank : Blank text
    · obtain ⟨hsession, htext, hending⟩ := manner.react_blank handler quiet session hblank
      obtain ⟨hresult, hafter, houtput⟩ := ih session hrest
      rw [converse_of_goesOn hending rfl, hsession, htext, answers, if_pos hblank, framed_cons]
      refine ⟨hresult, ?_, ?_⟩
      · simpa [hblank] using hafter
      · simp only [houtput, Text.bytes_append, Option.getD_none]
    · have hreact := manner.react_command handler quiet session hblank hfirst
      have hending : ((manner.mode handler quiet).react session (.ofText text)).ending = none := by
        rw [hreact]
        rfl
      obtain ⟨hresult, hafter, houtput⟩ := ih (session.process handler (bare text)).session hrest
      rw [converse_of_goesOn hending rfl, hreact, session_toCommand, text_toCommand, answers,
        if_neg hblank, framed_cons, List.filter_cons_of_pos (by simp [hblank]), List.map_cons,
        Session.processAll_cons]
      refine ⟨hresult, hafter, ?_⟩
      simp only [houtput, Text.bytes_append, Option.getD_some]

end Manner

/-! ## Both manners on the same bytes -/

theorem map_ofLine {lines : List (List UInt8)} {texts : List String}
    (h : lines.map Text.ofBytes? = texts.map some) :
    lines.map Received.ofLine = texts.map Received.ofText := by
  calc lines.map Received.ofLine
      = (lines.map Text.ofBytes?).map fun decoded => decoded.elim .notText Received.ofText := by
        rw [List.map_map]
        exact List.map_congr_left fun line _ => ofLine_eq_elim line
    _ = texts.map Received.ofText := by
        rw [h, List.map_map]
        rfl

theorem join_framed_script (answers : List (Option String)) :
    Manner.script.framed "" answers = String.join answers.reduceOption := by
  induction answers with
  | nil => rfl
  | cons answer answers ih =>
    rw [Manner.framed_cons, String.empty_append, ih]
    cases answer with
    | none => rw [List.reduceOption_cons_of_none]; exact String.empty_append
    | some answer => rw [List.reduceOption_cons_of_some, String.join_cons]; rfl

/-- A script and a dialogue over the same lines, all of them text and none a word of the dialogue, leave
the same session and show the same answers. The script shows nothing else; the dialogue shows its opening,
a prompt before each answer and at the end, and a complaint in place of an answer for a blank line. -/
theorem script_and_dialogue_agree (handler : Handler σ) (session : Session σ) (quiet : Bool)
    (prompt : String) (bytes : List UInt8) (texts : List String)
    (htexts : (linesOf bytes).map Text.ofBytes? = texts.map some)
    (hplain : ∀ text ∈ texts, ¬Stops text ∧ ¬Says text ".tables") :
    let script := (Mode.script handler quiet).run .unlimited session ⟨bytes, none⟩
    let dialogue := (Mode.interactive handler quiet prompt).run .unlimited session ⟨bytes, none⟩
    let shown := answers handler quiet session texts
    script.result = .ok () ∧ dialogue.result = .ok () ∧ script.session = dialogue.session ∧
    shown.map Option.isNone = texts.map (fun text => decide (Blank text)) ∧
    script.output = Text.bytes (String.join shown.reduceOption) ∧
    dialogue.output = Text.bytes (ended "sqlight (type '.exit' or '.quit' to stop)" ++
      (String.join (shown.map fun answer =>
        "\n" ++ prompt ++ answer.getD (ended "Error reading the input. Try again.")) ++
      ("\n" ++ prompt))) := by
  intro script dialogue shown
  have hreceived : (⟨bytes, none⟩ : Input).received = texts.map Received.ofText ++ [.finished] := by
    rw [Input.received_eq]
    exact congrArg (· ++ [.finished]) (map_ofLine htexts)
  have hnone : ∀ text ∈ texts, Directive.ofLine? text = none :=
    fun text htext => Directive.ofLine?_eq_none_iff.mpr (hplain text htext)
  have hscript := Manner.script.converse_texts handler quiet session hnone
  have hdialogue := (Manner.interactive prompt).converse_texts handler quiet session hnone
  rw [← hreceived] at hscript hdialogue
  obtain ⟨hresult, hsession, houtput⟩ := hscript
  obtain ⟨hresult', hsession', houtput'⟩ := hdialogue
  refine ⟨hresult, hresult', hsession.trans hsession'.symm, isNone_answers .., ?_, ?_⟩
  · exact houtput.trans (congrArg Text.bytes (join_framed_script shown))
  · rw [Text.bytes_append]
    exact congrArg (_ ++ ·) houtput'

theorem script_and_dialogue_agree_on_three_lines :
    let bytes := Text.bytes "DROP TABLE t\n \nhello"
    let texts := ["DROP TABLE t\n", " \n", "hello"]
    let script := (Mode.script .deferring false).run .unlimited (.start ()) ⟨bytes, none⟩
    let dialogue := (Mode.interactive .deferring false "> ").run .unlimited (.start ()) ⟨bytes, none⟩
    (linesOf bytes).map Text.ofBytes? = texts.map some ∧
    (∀ text ∈ texts, ¬Stops text ∧ ¬Says text ".tables") ∧
    script.result = .ok () ∧ dialogue.result = .ok () ∧ script.session = dialogue.session := by
  intro bytes texts script dialogue
  have htexts : (linesOf bytes).map Text.ofBytes? = texts.map some := by rfl
  have hplain : ∀ text ∈ texts, ¬Stops text ∧ ¬Says text ".tables" := by decide
  obtain ⟨hscript, hdialogue, hsession, -⟩ :=
    script_and_dialogue_agree .deferring (.start ()) false "> " bytes texts htexts hplain
  exact ⟨htexts, hplain, hscript, hdialogue, hsession⟩

end SchemaShell.Console
