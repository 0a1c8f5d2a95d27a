import Mathlib.Data.List.Forall2
import SchemaShell.Proofs.Console.Lines
import SchemaShell.Proofs.Text.Bytes

/-!
# Reading to the end

Bytes are cut behind every line feed. Reading an input again and again answers each piece once and in its
place, and then gives the end as often as it is read. When the device fails, the pieces with a line feed
are answered all the same, and the fault comes in place of an unfinished piece.
-/

namespace SchemaShell.Console

/-! ## Pieces -/

/-- The bytes are cut behind every line feed. What is left at the end is a piece if there is any. -/
inductive Pieces : List UInt8 → List (List UInt8) → Prop where
  | none : Pieces [] []
  | unfinished {content : List UInt8} (hne : content ≠ []) (feedless : lineFeed ∉ content) :
    Pieces content [content]
  | finished {content rest : List UInt8} {pieces : List (List UInt8)} (feedless : lineFeed ∉ content)
      (more : Pieces rest pieces) :
    Pieces (content ++ lineFeed :: rest) ((content ++ [lineFeed]) :: pieces)

theorem pieces_linesOf (bytes : List UInt8) : Pieces bytes (linesOf bytes) := by
  induction bytes with
  | nil => exact .none
  | cons byte bytes ih =>
    rw [linesOf]
    split
    · next hbyte =>
      subst hbyte
      exact .finished (List.not_mem_nil) ih
    · next hbyte =>
      generalize linesOf bytes = pieces at ih ⊢
      have hfirst : ∀ content, lineFeed ∉ content → lineFeed ∉ byte :: content := by
        intro content hcontent
        simp [Ne.symm hbyte, hcontent]
      cases ih with
      | none => exact .unfinished (by simp) (hfirst [] List.not_mem_nil)
      | unfinished hne feedless => exact .unfinished (by simp) (hfirst _ feedless)
      | finished feedless more => exact .finished (hfirst _ feedless) more

theorem Pieces.not_mem_dropLast {bytes : List UInt8} {pieces : List (List UInt8)} (h : Pieces bytes pieces) :
    ∀ piece ∈ pieces, lineFeed ∉ piece.dropLast := by
  induction h with
  | none => simp
  | unfinished hne feedless =>
    intro piece hpiece
    rw [List.mem_singleton.mp hpiece]
    exact fun hmem => feedless (List.dropLast_subset _ hmem)
  | finished feedless more ih =>
    intro piece hpiece
    rcases List.mem_cons.mp hpiece with rfl | hpiece
    · rwa [List.dropLast_concat]
    · exact ih piece hpiece

/-! ## Answers -/

/-- What is answered to a piece. Of a text that is not blank it is the text without its line feeds and
carriage returns at the end, of which none is left. -/
inductive Answer (piece : List UInt8) : Received → Prop where
  | notText (undecoded : ∀ text, Text.bytes text ≠ piece) : Answer piece .notText
  | blank {text : String} (decoded : Text.bytes text = piece) (white : Blank text) : Answer piece .blank
  | line {text lineEnd : String} (decoded : Text.bytes (text ++ lineEnd) = piece)
      (ends : ∀ c ∈ lineEnd.toList, c = '\n' ∨ c = '\r')
      (longest : ∀ c ∈ text.toList.getLast?, c ≠ '\n' ∧ c ≠ '\r') (feedless : '\n' ∉ text.toList)
      (shows : ¬ Blank text) :
    Answer piece (.line text)

theorem isLineEnd_iff {c : Char} : isLineEnd c = true ↔ c = '\n' ∨ c = '\r' := by
  simp [isLineEnd]

theorem isLineEnd_eq_false_iff {c : Char} : isLineEnd c = false ↔ c ≠ '\n' ∧ c ≠ '\r' := by
  simp [isLineEnd]

theorem isLineEnd_getLast?_bare (text : String) :
    ∀ c ∈ (bare text).toList.getLast?, isLineEnd c = false := by
  intro c hc
  rw [bare, String.toList_ofList, withoutLineEnd, List.getLast?_reverse] at hc
  have hhead := List.head?_dropWhile_not isLineEnd text.toList.reverse
  rwa [hc] at hhead

theorem blank_append {text lineEnd : String} (h : ∀ c ∈ lineEnd.toList, isLineEnd c = true) :
    Blank (text ++ lineEnd) ↔ Blank text := by
  unfold Blank Text.White
  rw [String.toList_append, List.forall_mem_append]
  exact and_iff_left fun c hc => isWhiteSpace_of_isLineEnd (h c hc)

theorem blank_bare {text : String} : Blank (bare text) ↔ Blank text := by
  obtain ⟨lineEnd, hends, htext⟩ := exists_bare_append text
  conv_rhs => rw [htext]
  exact (blank_append hends).symm

section

variable {text : String} {piece : List UInt8}

/-- Where the bytes of a text have a line feed at most at their end, the text has one there only. -/
theorem eq_nil_of_lineFeed (feedless : lineFeed ∉ (Text.bytes text).dropLast) {front back : List Char}
    (htext : text.toList = front ++ '\n' :: back) : back = [] := by
  by_contra hne
  have hsplit : text = String.ofList front ++ (String.singleton '\n' ++ String.ofList back) := by
    rw [← String.toList_inj, htext]
    simp
  have hback : Text.bytes (String.ofList back) ≠ [] := by
    rwa [Ne, Text.bytes_eq_nil_iff, ← String.toList_eq_nil_iff, String.toList_ofList]
  rw [hsplit, Text.bytes_append, Text.bytes_append, List.dropLast_append_of_ne_nil (by simp [hback]),
    List.dropLast_append_of_ne_nil hback] at feedless
  exact feedless (List.mem_append_right _ (List.mem_append_left _ (by decide)))

theorem lineFeed_not_mem_bare (feedless : lineFeed ∉ (Text.bytes text).dropLast) :
    '\n' ∉ (bare text).toList := by
  intro hmem
  obtain ⟨lineEnd, -, htext⟩ := exists_bare_append text
  obtain ⟨front, back, hbare⟩ := List.append_of_mem hmem
  have hchars : text.toList = front ++ '\n' :: (back ++ lineEnd.toList) := by
    rw [htext, String.toList_append, hbare, List.append_assoc, List.cons_append]
  have hnone := eq_nil_of_lineFeed feedless hchars
  have hlast := isLineEnd_getLast?_bare text '\n'
  rw [hbare, (List.append_eq_nil_iff.mp hnone).1] at hlast
  exact absurd (hlast (by simp)) (by decide)

theorem answer_ofLine (feedless : lineFeed ∉ piece.dropLast) : Answer piece (.ofLine piece) := by
  cases hdecoded : Text.ofBytes? piece with
  | none =>
    rw [ofLine_of_none hdecoded]
    exact .notText (Text.ofBytes?_eq_none_iff.mp hdecoded)
  | some text =>
    obtain rfl := Text.ofBytes?_eq_some_iff.mp hdecoded
    rw [ofLine_of_some hdecoded]
    by_cases hblank : Blank text
    · rw [ofText_of_blank hblank]
      exact .blank rfl hblank
    · rw [ofText_of_not_blank hblank]
      obtain ⟨lineEnd, hends, htext⟩ := exists_bare_append text
      exact .line (congrArg Text.bytes htext.symm) (fun c hc => isLineEnd_iff.mp (hends c hc))
        (fun c hc => isLineEnd_eq_false_iff.mp (isLineEnd_getLast?_bare text c hc))
        (lineFeed_not_mem_bare feedless) (blank_bare.not.mpr hblank)

end

/-! ## Readings -/

namespace Input

variable {input : Input}

/-- What the first `n` readings of an input give, each on what the one before has left. -/
def readings : Nat → Input → List Received
  | 0, _ => []
  | n + 1, input => input.read.1 :: readings n input.read.2

/-- Where no line is left, each fault is received once, and then the end. -/
def atEnd (faults : List Fault) (n : Nat) : List Received :=
  (faults.map Received.failed).take n ++ List.replicate (n - faults.length) .finished

theorem atEnd_nil (n : Nat) : atEnd [] n = List.replicate n .finished := by
  simp [atEnd]

theorem atEnd_one (fault : Fault) (later : List Fault) : atEnd (fault :: later) 1 = [.failed fault] := by
  simp [atEnd]

theorem readings_nil (faults : List Fault) (n : Nat) :
    (⟨[], Failure.ofFaults? faults⟩ : Input).readings n = atEnd faults n := by
  induction n generalizing faults with
  | zero => simp [readings, atEnd]
  | succ n ih =>
    rw [readings, read_nil]
    cases faults with
    | nil =>
      have hrest := ih []
      simp only [atEnd, List.map_nil, List.take_nil, List.nil_append, List.length_nil] at hrest ⊢
      exact congrArg (_ :: ·) hrest
    | cons fault later =>
      have hrest := ih later
      simp only [atEnd, List.map_cons, List.take_succ_cons, List.length_cons, Nat.add_sub_add_right] at hrest ⊢
      exact congrArg (_ :: ·) hrest

theorem read_of_lines_eq_nil (h : input.lines = []) : input.read = input.readEnd := by
  by_cases hend : (cutLine input.bytes).1 = [] ∨ input.breaksOff (cutLine input.bytes).1 = true
  · exact read_of_end hend
  · rw [not_or, Bool.not_eq_true] at hend
    rw [lines_of_line (fun hnil => hend.1 (by rw [hnil]; rfl)) hend.2] at h
    cases h

theorem readings_of_lines_eq_nil (h : input.lines = []) (n : Nat) :
    input.readings n = atEnd input.faults n := by
  rw [← readings_nil, ofFaults?_faults]
  cases n with
  | zero => rfl
  | succ n =>
    rw [readings, readings, read_of_lines_eq_nil h, read_nil]
    rfl

theorem read_of_lines_eq_cons {piece : List UInt8} {pieces : List (List UInt8)}
    (h : input.lines = piece :: pieces) :
    input.read.1 = .ofLine piece ∧ input.read.2.lines = pieces ∧ input.read.2.faults = input.faults := by
  by_cases hend : (cutLine input.bytes).1 = [] ∨ input.breaksOff (cutLine input.bytes).1 = true
  · rw [lines_of_end hend] at h
    cases h
  · rw [not_or, Bool.not_eq_true] at hend
    have hbytes : input.bytes ≠ [] := fun hnil => hend.1 (by rw [hnil]; rfl)
    rw [lines_of_line hbytes hend.2] at h
    obtain ⟨rfl, rfl⟩ := List.cons.inj h
    rw [read_of_line hbytes hend.2]
    exact ⟨rfl, rfl, rfl⟩

theorem readings_eq (input : Input) (n : Nat) :
    input.readings (input.lines.length + n) = input.lines.map Received.ofLine ++ atEnd input.faults n := by
  induction hlines : input.lines generalizing input with
  | nil =>
    rw [List.length_nil, Nat.zero_add, readings_of_lines_eq_nil hlines]
    rfl
  | cons piece pieces ih =>
    obtain ⟨hfirst, hrest, hfaults⟩ := read_of_lines_eq_cons hlines
    rw [List.length_cons, Nat.add_right_comm, readings, hfirst, ih _ hrest, hfaults]
    rfl

end Input

theorem answers_linesOf (bytes : List UInt8) :
    List.Forall₂ Answer (linesOf bytes) ((linesOf bytes).map Received.ofLine) := by
  rw [List.forall₂_map_right_iff, List.forall₂_same]
  exact fun piece hpiece => answer_ofLine ((pieces_linesOf bytes).not_mem_dropLast piece hpiece)

/-- Of any bytes every piece is answered once, in order: it is no text, or it is blank, or it is given
without its line end. Then the end is given, however often one goes on to read. If the device fails in
place of the end, the pieces with a line feed are answered as before and the fault comes next, whatever an
unfinished piece behind them is. -/
theorem every_piece_is_answered_once (bytes : List UInt8) :
    let pieces := linesOf bytes
    let finished := pieces.filter fun piece => piece.getLast? = some lineFeed
    Pieces bytes pieces ∧
    List.Forall₂ Answer pieces (pieces.map Received.ofLine) ∧
    (∀ n, (⟨bytes, none⟩ : Input).readings (pieces.length + n) =
      pieces.map Received.ofLine ++ List.replicate n .finished) ∧
    ∀ failure, (⟨bytes, some failure⟩ : Input).readings (finished.length + 1) =
      finished.map Received.ofLine ++ [.failed failure.first] := by
  intro pieces finished
  refine ⟨pieces_linesOf bytes, answers_linesOf bytes, fun n => ?_, fun failure => ?_⟩
  · exact (Input.readings_eq ⟨bytes, none⟩ n).trans (congrArg _ (Input.atEnd_nil n))
  · exact (Input.readings_eq ⟨bytes, some failure⟩ 1).trans (congrArg _ (Input.atEnd_one _ _))

example : (⟨Text.bytes "a\r\n \n\rb", none⟩ : Input).readings 5 =
    [.line "a", .blank, .line "\rb", .finished, .finished] := by decide

end SchemaShell.Console
