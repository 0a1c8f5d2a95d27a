import SchemaShell.Console.Dialogue
import SchemaShell.Proofs.Command.Line

/-!
# The lines of an input

Which lines are received is told here from the bytes alone: each is received once, in its place, and
the end after all of them. What a line is taken for depends on its text, and the line end takes no
part in that.
-/

namespace SchemaShell.Console

/-! ## Bytes -/

/-- The lines of a row of bytes, each with its line feed. The last one may have none. -/
def linesOf : List UInt8 → List (List UInt8)
  | [] => []
  | byte :: bytes =>
    if byte = lineFeed then [byte] :: linesOf bytes
    else
      match linesOf bytes with
      | [] => [[byte]]
      | line :: lines => (byte :: line) :: lines

example : linesOf [97, 10, 10, 98] = [[97, 10], [10], [98]] := by decide

theorem linesOf_eq_cutLine {bytes : List UInt8} (h : bytes ≠ []) :
    linesOf bytes = (cutLine bytes).1 :: linesOf (cutLine bytes).2 := by
  induction bytes with
  | nil => contradiction
  | cons byte bytes ih =>
    rw [linesOf, cutLine]
    split
    · rfl
    · by_cases hrest : bytes = []
      · subst hrest
        rfl
      · rw [ih hrest]

theorem cutLine_snd_of_open {bytes : List UInt8} (h : (cutLine bytes).1.getLast? ≠ some lineFeed) :
    (cutLine bytes).2 = [] := by
  induction bytes with
  | nil => rfl
  | cons byte bytes ih =>
    rw [cutLine] at h ⊢
    split at h
    · rename_i hbyte
      simp [hbyte] at h
    · rename_i hbyte
      rw [if_neg hbyte]
      refine ih fun hline => h ?_
      rw [List.getLast?_cons, hline]
      rfl

theorem length_cutLine_snd_lt {bytes : List UInt8} (h : bytes ≠ []) :
    (cutLine bytes).2.length < bytes.length := by
  have hlength := congrArg List.length (append_cutLine bytes)
  have hline := List.length_pos_iff.mpr (cutLine_ne_nil h)
  rw [List.length_append] at hlength
  omega

/-! ## Receiving -/

theorem ofLine_eq_elim (line : List UInt8) :
    Received.ofLine line = (Text.ofBytes? line).elim .notText Received.ofText := by
  rw [Received.ofLine]
  cases Text.ofBytes? line <;> rfl

theorem ofLine_of_none {line : List UInt8} (h : Text.ofBytes? line = none) :
    Received.ofLine line = .notText := by
  rw [ofLine_eq_elim, h]
  rfl

theorem ofLine_of_some {line : List UInt8} {text : String} (h : Text.ofBytes? line = some text) :
    Received.ofLine line = .ofText text := by
  rw [ofLine_eq_elim, h]
  rfl

theorem Received.isLast_ofLine (line : List UInt8) : (ofLine line).isLast = false := by
  unfold ofLine ofText
  split
  · rfl
  · split <;> rfl

namespace Input

variable {input : Input}

/-- The lines that are received. Where the device fails, an unfinished last line is lost. -/
def lines (input : Input) : List (List UInt8) :=
  match input.failure? with
  | none => linesOf input.bytes
  | some _ => (linesOf input.bytes).filter fun line => line.getLast? = some lineFeed

theorem lines_eq_filter (input : Input) :
    input.lines = (linesOf input.bytes).filter fun line => !input.breaksOff line := by
  rcases input with ⟨bytes, _ | failure⟩
  · simp [lines, breaksOff]
  · simp only [lines, breaksOff, Option.isSome_some, Bool.true_and, bne, Bool.not_not,
      beq_eq_decide]

/-- What is received behind the lines: the faults, up to one after which nobody reads on, and else the end. -/
def endings : List Fault → List Received
  | [] => [.finished]
  | fault :: later => .failed fault :: if fault.kind = .invalidData then endings later else []

theorem ofFaults?_faults (input : Input) : Failure.ofFaults? input.faults = input.failure? := by
  rcases input with ⟨bytes, _ | failure⟩ <;> rfl

theorem cutLine_snd_of_end
    (h : (cutLine input.bytes).1 = [] ∨ input.breaksOff (cutLine input.bytes).1 = true) :
    (cutLine input.bytes).2 = [] := by
  by_cases hbytes : input.bytes = []
  · rw [hbytes]
    rfl
  have hbreaks := h.resolve_left (cutLine_ne_nil hbytes)
  simp only [breaksOff, Bool.and_eq_true, bne_iff_ne] at hbreaks
  exact cutLine_snd_of_open hbreaks.2

theorem read_of_end
    (h : (cutLine input.bytes).1 = [] ∨ input.breaksOff (cutLine input.bytes).1 = true) :
    input.read = input.readEnd :=
  if_pos h

theorem read_nil (failure? : Option Failure) :
    (⟨[], failure?⟩ : Input).read = (⟨[], failure?⟩ : Input).readEnd := rfl

theorem read_of_line (hbytes : input.bytes ≠ [])
    (h : input.breaksOff (cutLine input.bytes).1 = false) :
    input.read = (.ofLine (cutLine input.bytes).1, { input with bytes := (cutLine input.bytes).2 }) :=
  if_neg (by simp [cutLine_ne_nil hbytes, h])

theorem lines_of_end
    (h : (cutLine input.bytes).1 = [] ∨ input.breaksOff (cutLine input.bytes).1 = true) :
    input.lines = [] := by
  rw [lines_eq_filter]
  by_cases hbytes : input.bytes = []
  · rw [hbytes]
    rfl
  have hbreaks := h.resolve_left (cutLine_ne_nil hbytes)
  rw [linesOf_eq_cutLine hbytes, cutLine_snd_of_end h]
  simp [linesOf, hbreaks]

theorem lines_of_line (hbytes : input.bytes ≠ [])
    (h : input.breaksOff (cutLine input.bytes).1 = false) :
    input.lines = (cutLine input.bytes).1 ::
      ({ input with bytes := (cutLine input.bytes).2 } : Input).lines := by
  rw [lines_eq_filter, linesOf_eq_cutLine hbytes, List.filter_cons_of_pos (by simp [h])]
  exact congrArg (_ :: ·) (lines_eq_filter { input with bytes := (cutLine input.bytes).2 }).symm

theorem readAll_nil (limit : Nat) (faults : List Fault) (h : faults.length ≤ limit) :
    readAll limit ⟨[], Failure.ofFaults? faults⟩ = endings faults := by
  induction limit generalizing faults with
  | zero =>
    rw [List.length_eq_zero_iff.mp (Nat.le_zero.mp h)]
    rfl
  | succ limit ih =>
    cases faults with
    | nil => rfl
    | cons fault later =>
      have hlater := ih later (Nat.le_of_succ_le_succ h)
      by_cases hkind : fault.kind = .invalidData
      · simpa [readAll, read_nil, readEnd, Failure.ofFaults?, Received.isLast, endings, hkind] using hlater
      · simp [readAll, read_nil, readEnd, Failure.ofFaults?, Received.isLast, endings, hkind]

theorem readAll_of_end
    (h : (cutLine input.bytes).1 = [] ∨ input.breaksOff (cutLine input.bytes).1 = true) {limit : Nat}
    (hlimit : input.faults.length ≤ limit) : readAll limit input = endings input.faults := by
  have hempty : readAll limit input = readAll limit ⟨[], input.failure?⟩ := by
    cases limit with
    | zero => rfl
    | succ limit =>
      rw [readAll, readAll, read_of_end h, read_nil]
      rfl
  rw [hempty, ← ofFaults?_faults, readAll_nil limit _ hlimit]

theorem readAll_eq (limit : Nat) (h : input.bytes.length + input.faults.length ≤ limit) :
    readAll limit input = input.lines.map Received.ofLine ++ endings input.faults := by
  induction limit generalizing input with
  | zero =>
    have hbytes : input.bytes = [] := List.length_eq_zero_iff.mp (by omega)
    have hend : (cutLine input.bytes).1 = [] := by rw [hbytes]; rfl
    rw [readAll_of_end (.inl hend) (by omega), lines_of_end (.inl hend)]
    rfl
  | succ limit ih =>
    by_cases hend : (cutLine input.bytes).1 = [] ∨ input.breaksOff (cutLine input.bytes).1 = true
    · rw [readAll_of_end hend (by omega), lines_of_end hend]
      rfl
    · rw [not_or, Bool.not_eq_true] at hend
      have hbytes : input.bytes ≠ [] := fun hnil => hend.1 (by rw [hnil]; rfl)
      have hlength := length_cutLine_snd_lt hbytes
      simp only [readAll, read_of_line hbytes hend.2, Received.isLast_ofLine,
        lines_of_line hbytes hend.2]
      have hrest : (cutLine input.bytes).2.length + input.faults.length ≤ limit := by omega
      exact congrArg (_ :: ·) (ih hrest)

theorem received_eq (input : Input) :
    input.received = input.lines.map Received.ofLine ++ endings input.faults :=
  readAll_eq _ le_rfl

end Input

/-! ## Texts -/

/-- The text of a line without its line end, as a session gets it. -/
def bare (text : String) : String :=
  String.ofList (withoutLineEnd text.toList)

def Blank (text : String) : Prop :=
  Text.White text.toList

instance (text : String) : Decidable (Blank text) :=
  inferInstanceAs (Decidable (∀ c ∈ text.toList, Text.isWhiteSpace c = true))

theorem ofText_of_blank {text : String} (h : Blank text) : Received.ofText text = .blank :=
  if_pos (List.all_eq_true.mpr h)

theorem ofText_of_not_blank {text : String} (h : ¬Blank text) : Received.ofText text = .line (bare text) :=
  if_neg fun hall => h (List.all_eq_true.mp hall)

theorem isWhiteSpace_of_isLineEnd {c : Char} (h : isLineEnd c = true) : Text.isWhiteSpace c = true := by
  simp only [isLineEnd, Bool.or_eq_true, beq_iff_eq] at h
  rcases h with rfl | rfl <;> decide

theorem exists_bare_append (text : String) :
    ∃ lineEnd : String, (∀ c ∈ lineEnd.toList, isLineEnd c = true) ∧ text = bare text ++ lineEnd := by
  refine ⟨String.ofList (text.toList.reverse.takeWhile isLineEnd).reverse, ?_, ?_⟩
  · intro c hc
    rw [String.toList_ofList, List.mem_reverse] at hc
    exact List.mem_takeWhile_imp hc
  · rw [← String.toList_inj, String.toList_append, bare, String.toList_ofList, String.toList_ofList,
      withoutLineEnd, ← List.reverse_append, List.takeWhile_append_dropWhile, List.reverse_reverse]

theorem trim_append_white (text : List Char) {white : List Char} (h : Text.White white) :
    Text.trim (text ++ white) = Text.trim text := by
  have hend (front : List Char) : Text.trimEnd (front ++ white) = Text.trimEnd front := by
    rw [Text.trimEnd, List.reverse_append,
      List.dropWhile_append_of_pos fun c hc => h c (List.mem_reverse.mp hc)]
    rfl
  rw [Text.trim, Text.trimStart, List.dropWhile_append]
  split
  · rename_i hall
    rw [List.dropWhile_eq_nil_iff.mpr h, Text.trim, Text.trimStart, List.isEmpty_iff.mp hall]
  · exact hend _

theorem trim_bare (text : String) : Text.trim (bare text).toList = Text.trim text.toList := by
  obtain ⟨lineEnd, hends, htext⟩ := exists_bare_append text
  have hwhite : Text.White lineEnd.toList := fun c hc => isWhiteSpace_of_isLineEnd (hends c hc)
  conv_rhs => rw [htext, String.toList_append]
  exact (trim_append_white _ hwhite).symm

/-- White space around it apart, the text is this word. -/
def Says (text word : String) : Prop :=
  Text.trim text.toList = word.toList

instance (text word : String) : Decidable (Says text word) :=
  inferInstanceAs (Decidable (_ = _))

def Stops (text : String) : Prop :=
  Says text ".exit" ∨ Says text ".quit"

instance (text : String) : Decidable (Stops text) :=
  inferInstanceAs (Decidable (_ ∨ _))

namespace Directive

variable {text : String}

theorem ofLine?_bare (text : String) : ofLine? (bare text) = ofLine? text := by
  simp only [ofLine?, trim_bare]

theorem ofLine?_eq (text : String) :
    ofLine? text =
      if Stops text then some stop else if Says text ".tables" then some listTables else none := rfl

theorem ofLine?_eq_none_iff : ofLine? text = none ↔ ¬Stops text ∧ ¬Says text ".tables" := by
  rw [ofLine?_eq]
  by_cases hstops : Stops text
  · simp [hstops]
  · by_cases hlists : Says text ".tables" <;> simp [hstops, hlists]

end Directive

end SchemaShell.Console
