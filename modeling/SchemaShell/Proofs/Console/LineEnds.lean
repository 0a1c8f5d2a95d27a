import SchemaShell.Proofs.Console.Manner
import SchemaShell.Proofs.Console.Reading

/-!
# Line ends do not matter

A line is received as the same thing whether it ends in a line feed, in a carriage return and a line feed,
or, being the last one, in neither. So a dialogue takes its course whatever its lines end in.
-/

namespace SchemaShell.Console

variable {σ : Type}

def carriageReturn : UInt8 := 13

def withReturns (bytes : List UInt8) : List UInt8 :=
  bytes.flatMap fun byte => if byte = lineFeed then [carriageReturn, lineFeed] else [byte]

example : withReturns [97, 10, 13, 10, 98] = [97, 13, 10, 13, 13, 10, 98] := by decide

/-! ## One line -/

theorem bare_append {lineEnd : String} (h : ∀ c ∈ lineEnd.toList, isLineEnd c = true) (text : String) :
    bare (text ++ lineEnd) = bare text := by
  unfold bare withoutLineEnd
  rw [String.toList_append, List.reverse_append,
    List.dropWhile_append_of_pos fun c hc => h c (List.mem_reverse.mp hc)]

theorem ofText_append {lineEnd : String} (h : ∀ c ∈ lineEnd.toList, isLineEnd c = true) (text : String) :
    Received.ofText (text ++ lineEnd) = .ofText text := by
  by_cases hblank : Blank text
  · rw [ofText_of_blank hblank, ofText_of_blank ((blank_append h).mpr hblank)]
  · rw [ofText_of_not_blank hblank, ofText_of_not_blank ((blank_append h).not.mpr hblank), bare_append h]

theorem ofLine_append {c : Char} (hc : isLineEnd c = true) (line : List UInt8) :
    Received.ofLine (line ++ Text.bytes (String.singleton c)) = .ofLine line := by
  have hascii : c.toNat < 128 := by
    rcases isLineEnd_iff.mp hc with rfl | rfl <;> decide
  have hend : ∀ d ∈ (String.singleton c).toList, isLineEnd d = true := by simpa using hc
  rw [ofLine_eq_elim, ofLine_eq_elim, Text.ofBytes?_append_singleton hascii]
  cases Text.ofBytes? line with
  | none => rfl
  | some text => exact ofText_append hend text

theorem ofLine_append_lineFeed (line : List UInt8) : Received.ofLine (line ++ [lineFeed]) = .ofLine line :=
  ofLine_append (c := '\n') rfl line

theorem ofLine_append_carriageReturn (line : List UInt8) :
    Received.ofLine (line ++ [carriageReturn]) = .ofLine line :=
  ofLine_append (c := '\r') rfl line

/-! ## All lines -/

section

variable {content : List UInt8}

theorem linesOf_of_feedless (hne : content ≠ []) (feedless : lineFeed ∉ content) :
    linesOf content = [content] := by
  induction content with
  | nil => contradiction
  | cons byte content ih =>
    obtain ⟨hbyte, hcontent⟩ := List.ne_and_not_mem_of_not_mem_cons feedless
    rw [linesOf, if_neg (Ne.symm hbyte)]
    cases content with
    | nil => rfl
    | cons next content => rw [ih (List.cons_ne_nil _ _) hcontent]

theorem linesOf_append_lineFeed (feedless : lineFeed ∉ content) (rest : List UInt8) :
    linesOf (content ++ lineFeed :: rest) = (content ++ [lineFeed]) :: linesOf rest := by
  induction content with
  | nil => exact if_pos rfl
  | cons byte content ih =>
    obtain ⟨hbyte, hcontent⟩ := List.ne_and_not_mem_of_not_mem_cons feedless
    rw [List.cons_append, linesOf, if_neg (Ne.symm hbyte), ih hcontent]
    rfl

theorem withReturns_of_feedless (feedless : lineFeed ∉ content) : withReturns content = content := by
  have hkept : ∀ byte ∈ content,
      (if byte = lineFeed then [carriageReturn, lineFeed] else [byte]) = [byte] := by
    intro byte hbyte
    refine if_neg ?_
    rintro rfl
    exact feedless hbyte
  rw [withReturns, List.flatMap_congr hkept, List.flatMap_singleton']

theorem withReturns_append_lineFeed (feedless : lineFeed ∉ content) (rest : List UInt8) :
    withReturns (content ++ lineFeed :: rest) =
      content ++ [carriageReturn] ++ lineFeed :: withReturns rest := by
  rw [withReturns, List.flatMap_append, ← withReturns, withReturns_of_feedless feedless, List.append_assoc]
  rfl

end

variable {bytes : List UInt8} {pieces : List (List UInt8)}

theorem map_ofLine_withReturns (h : Pieces bytes pieces) :
    (linesOf (withReturns bytes)).map Received.ofLine = pieces.map Received.ofLine := by
  induction h with
  | none => rfl
  | unfinished hne feedless => rw [withReturns_of_feedless feedless, linesOf_of_feedless hne feedless]
  | @finished content rest pieces feedless more ih =>
    have hfeedless : lineFeed ∉ content ++ [carriageReturn] := by
      rw [List.mem_append, List.mem_singleton]
      exact not_or.mpr ⟨feedless, by decide⟩
    rw [withReturns_append_lineFeed feedless, linesOf_append_lineFeed hfeedless, List.map_cons,
      List.map_cons, ih, ofLine_append_lineFeed, ofLine_append_carriageReturn, ofLine_append_lineFeed]

theorem map_ofLine_append_lineFeed (h : Pieces bytes pieces) (hne : bytes ≠ [])
    (hopen : bytes.getLast? ≠ some lineFeed) :
    (linesOf (bytes ++ [lineFeed])).map Received.ofLine = pieces.map Received.ofLine := by
  induction h with
  | none => contradiction
  | @unfinished content _ feedless =>
    rw [linesOf_append_lineFeed feedless, List.map_cons, ofLine_append_lineFeed]
    rfl
  | @finished content rest pieces feedless more ih =>
    rw [List.getLast?_append_of_ne_nil _ (List.cons_ne_nil _ _)] at hopen
    cases rest with
    | nil => contradiction
    | cons byte rest =>
      rw [List.append_assoc, List.cons_append, linesOf_append_lineFeed feedless, List.map_cons,
        List.map_cons, ih (List.cons_ne_nil _ _) (by rwa [List.getLast?_cons_cons] at hopen)]

/-! ## Dialogues -/

theorem received_congr {other : List UInt8}
    (h : (linesOf bytes).map Received.ofLine = (linesOf other).map Received.ofLine) :
    (⟨bytes, none⟩ : Input).received = (⟨other, none⟩ : Input).received := by
  rw [Input.received_eq, Input.received_eq]
  exact congrArg (· ++ [.finished]) h

theorem run_congr (mode : Mode σ) (sink : Sink) (session : Session σ) {input other : Input}
    (h : input.received = other.received) : mode.run sink session input = mode.run sink session other := by
  rw [Mode.run, Mode.run, h]

/-- A script and an interactive dialogue have the same result, output and session at the end, and the same
log, when every line feed of their input gets a carriage return in front of it, and when an input that does
not end in a line feed gets one. -/
theorem line_ends_do_not_matter (manner : Manner) (handler : Handler σ) (quiet : Bool)
    (session : Session σ) (bytes : List UInt8) :
    let run := fun bytes => (manner.mode handler quiet).run .unlimited session ⟨bytes, none⟩
    run (withReturns bytes) = run bytes ∧
      (bytes ≠ [] → bytes.getLast? ≠ some lineFeed → run (bytes ++ [lineFeed]) = run bytes) := by
  intro run
  have hpieces := pieces_linesOf bytes
  constructor
  · exact run_congr _ _ _ (received_congr (map_ofLine_withReturns hpieces))
  · intro hne hopen
    exact run_congr _ _ _ (received_congr (map_ofLine_append_lineFeed hpieces hne hopen))

theorem line_ends_do_not_matter_to_drop :
    let run := fun bytes => (Mode.interactive .deferring false "> ").run .unlimited (.start ()) ⟨bytes, none⟩
    let bytes := Text.bytes "\n\rDROP TABLE t\r\n.tables\r"
    bytes ≠ [] ∧ bytes.getLast? ≠ some lineFeed ∧ run (withReturns bytes) = run bytes ∧
      run (bytes ++ [lineFeed]) = run bytes := by
  intro run bytes
  have hne : bytes ≠ [] := by decide
  have hopen : bytes.getLast? ≠ some lineFeed := by decide
  obtain ⟨hreturns, hlast⟩ :=
    line_ends_do_not_matter (.interactive "> ") .deferring false (.start ()) bytes
  exact ⟨hne, hopen, hreturns, hlast hne hopen⟩

end SchemaShell.Console
