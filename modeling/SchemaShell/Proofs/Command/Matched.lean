import SchemaShell.Proofs.Command.InsertInto
import SchemaShell.Proofs.Command.OneName
import SchemaShell.Proofs.Command.OneReading

/-!
# The text that a command covers

A command covers the front of its line. That part alone, without the blanks at its end, is read as the
same command, so what a command says is in the text that it covers. A form that a parenthesis closes is
read in the same way whatever follows it.
-/

namespace SchemaShell.Command

open Pattern Shape Written

variable {kind : Kind} {line : String} {command : Command} {text front back tail : List Char}

/-! ## Texts that nothing is taken off -/

/-- The text ends with a letter, a digit or a closing parenthesis. -/
def Closed (text : List Char) : Prop :=
  ∃ c, text.getLast? = some c ∧ (c.isAlphanum = true ∨ c = ')')

theorem Closed.append (h : Closed back) (front : List Char) : Closed (front ++ back) := by
  obtain ⟨c, hc, hends⟩ := h
  exact ⟨c, by rw [List.getLast?_append, hc, Option.some_or], hends⟩

theorem Closed.cons (h : Closed back) (c : Char) : Closed (c :: back) :=
  h.append [c]

theorem Written.Word.closed (h : Word text) : Closed text :=
  ⟨_, List.getLast?_eq_some_getLast h.1, Or.inl (h.2 _ (List.getLast_mem h.1))⟩

theorem closed_paren : Closed [')'] :=
  ⟨')', rfl, Or.inr rfl⟩

theorem Closed.ne_nil (h : Closed text) : text ≠ [] := by
  obtain ⟨c, hc, -⟩ := h
  rintro rfl
  cases hc

theorem Closed.isWhiteSpace_last (h : Closed text) : ∀ c ∈ text.getLast?, Text.isWhiteSpace c = false := by
  obtain ⟨last, hlast, hends⟩ := h
  intro c hc
  obtain rfl : last = c := by simpa [hlast] using hc
  rcases hends with hword | rfl
  · exact Text.isWhiteSpace_of_isAlphanum hword
  · rfl

theorem Closed.last_ne_semicolon (h : Closed text) : text.getLast? ≠ some ';' := by
  obtain ⟨last, hlast, hends⟩ := h
  rw [hlast]
  rintro ⟨⟩
  revert hends
  decide

theorem closed_equation (e : Equation) : Closed e.text :=
  ((((e.value.2.closed.append _).cons _).append _).append _)

theorem closed_filter (w : Filter) : Closed w.text :=
  ((closed_equation w.equation).append _).append _

/-! ## Texts that stand alone -/

/-- The command covers a text and blanks. On a line of its own the text is read as the same command. -/
def StandsAlone (kind : Kind) (command : Command) : Prop :=
  ∃ front blanks, Blanks blanks ∧ command.matched = String.ofList (front ++ blanks) ∧ Closed front ∧
    ∀ line, normalize line = front →
      validate kind line = .ok { command with matched := String.ofList front, remainder := "" }

theorem blanks_takeWhile (text : List Char) : Blanks (text.takeWhile Text.isBlank) :=
  fun _ hc => List.mem_takeWhile_imp hc

theorem standsAlone_of_named {field : Field} (hfield : kind.nameField? = some field)
    (h : validate kind line = .ok command) : command.StandsAlone kind := by
  obtain ⟨f, tail, -, -, rfl⟩ := (validate_named_eq_ok_iff hfield).mp h
  refine ⟨f.text, _, blanks_takeWhile tail, rfl, (f.isName.closed.append _).append _, fun line hline => ?_⟩
  have htext : normalize line = f.text ++ [] := by rw [hline, List.append_nil]
  have hfits := validate_of_named hfield htext (by simp [StartsApart])
  simpa [Named.command] using hfits

theorem standsAlone_of_blanks {parts : List (Field × List Char)} (hclosed : Closed text)
    (hreads : ∀ line tail, normalize line = text ++ tail → StartsApart tail →
      validate kind line =
        .ok (ofReading kind ⟨text ++ tail.takeWhile Text.isBlank, parts, tail.dropWhile Text.isBlank⟩))
    (tail : List Char) :
    (ofReading kind ⟨text ++ tail.takeWhile Text.isBlank, parts, tail.dropWhile Text.isBlank⟩).StandsAlone kind := by
  refine ⟨text, _, blanks_takeWhile tail, rfl, hclosed, fun line hline => ?_⟩
  have htext : normalize line = text ++ [] := by rw [hline, List.append_nil]
  have hfits := hreads line [] htext (by simp [StartsApart])
  rw [List.takeWhile_nil, List.append_nil] at hfits
  exact hfits

theorem standsAlone_of_insertInto (h : validate .insertInto line = .ok command) :
    command.StandsAlone .insertInto := by
  obtain ⟨f, tail, -, rfl⟩ := validate_insertInto_eq_ok_iff.mp h
  have hclosed : Closed f.text := (((closed_paren.append _).cons _).append _).append _
  exact standsAlone_of_blanks hclosed (fun _ _ htext _ => validate_of_insertInto htext) tail

theorem standsAlone_of_deleteFrom (h : validate .deleteFrom line = .ok command) :
    command.StandsAlone .deleteFrom := by
  obtain ⟨f, tail, -, -, rfl⟩ := validate_deleteFrom_eq_ok_iff.mp h
  have hclosed : Closed f.text := ((((closed_filter f.filter).append _).append _).append _).append _
  exact standsAlone_of_blanks hclosed (fun _ _ => validate_of_deleteFrom) tail

theorem standsAlone_of_update (h : validate .update line = .ok command) : command.StandsAlone .update := by
  obtain ⟨f, tail, -, -, rfl⟩ := validate_update_eq_ok_iff.mp h
  have hchange : Closed (f.change.text ++ (f.beforeFilter ++ f.filter.text)) :=
    ((closed_filter f.filter).append _).append _
  have hclosed : Closed f.text := (((((hchange.append _).append _).append _).append _).append _).append _
  exact standsAlone_of_blanks hclosed (fun _ _ => validate_of_update) tail

/-- The text is read with these parts, whatever follows it. -/
structure ReadAsWritten (kind : Kind) (text : List Char) (parts : List (Field × List Char)) : Prop where
  closed : Closed text
  reads : ∀ line rest, normalize line = text ++ rest →
    validate kind line = .ok (ofReading kind ⟨text, parts, rest⟩)

theorem ReadAsWritten.standsAlone {parts : List (Field × List Char)} (h : ReadAsWritten kind text parts)
    (rest : List Char) : (ofReading kind ⟨text, parts, rest⟩).StandsAlone kind := by
  refine ⟨text, noGap, noGap.2, by simp [ofReading, noGap], h.closed, fun line hline => ?_⟩
  have htext : normalize line = text ++ [] := by rw [hline, List.append_nil]
  exact h.reads line [] htext

theorem readAsWritten_createTable (f : CreateTable) : ReadAsWritten .createTable f.text f.parts := by
  refine ⟨?_, fun line rest htext => ?_⟩
  · obtain ⟨front, hfront⟩ := text_ends_with_block f
    rw [hfront]
    exact (closed_paren.append _).append front
  · rw [validate_of_createTable htext, ofReading_createTable]

theorem readAsWritten_createIndex (f : CreateIndex) : ReadAsWritten .createIndex f.text f.parts := by
  refine ⟨?_, fun line rest => validate_of_createIndex⟩
  have hcolumn : Closed ('(' :: (f.beforeColumn ++ (f.column ++ (f.afterColumn ++ [')'])))) :=
    (((closed_paren.append _).append _).append _).cons _
  have htarget : Closed f.target := ((((hcolumn.append _).append _).append _).append _).append _
  exact ((htarget.append _).append _).append _

theorem exists_readAsWritten (hkind : kind = .createTable ∨ kind = .createIndex)
    (h : validate kind line = .ok command) :
    ∃ text parts rest, ReadAsWritten kind text parts ∧ command = ofReading kind ⟨text, parts, rest⟩ := by
  rcases hkind with rfl | rfl
  · obtain ⟨f, rest, -, -, rfl⟩ := validate_createTable_eq_ok_iff.mp h
    exact ⟨_, _, rest, readAsWritten_createTable f, (ofReading_createTable f rest).symm⟩
  · obtain ⟨f, rest, -, rfl⟩ := validate_createIndex_eq_ok_iff.mp h
    exact ⟨_, _, rest, readAsWritten_createIndex f, rfl⟩

theorem standsAlone_of_readAsWritten (hkind : kind = .createTable ∨ kind = .createIndex)
    (h : validate kind line = .ok command) : command.StandsAlone kind := by
  obtain ⟨text, parts, rest, hwritten, rfl⟩ := exists_readAsWritten hkind h
  exact hwritten.standsAlone rest

theorem closed_selection (f : Selection) : Closed f.text :=
  (((((f.table.2.closed.append _).append _).append _).append _).append _).append _

theorem standsAlone_of_filtered {f : Selection} {w : Filter} {rest : List Char} (hapart : StartsApart tail)
    (hrest : tail.dropWhile Text.isBlank = w.text ++ rest) :
    (f.command (some w.equation) (f.text ++ (tail.takeWhile Text.isBlank ++ w.text)) rest).StandsAlone .select := by
  have hclosed := ((closed_filter w).append (tail.takeWhile Text.isBlank)).append f.text
  refine ⟨_, noGap, noGap.2, by simp [Selection.command, ofReading, noGap], hclosed, fun line hline => ?_⟩
  have hfront : tail.takeWhile Text.isBlank ++ w.text <+: tail :=
    ⟨rest, by rw [List.append_assoc, ← hrest, List.takeWhile_append_dropWhile]⟩
  have hvisible : ∀ c ∈ w.text.head?, Text.isBlank c = false := by
    refine Text.forall_head?_of_prefix ⟨rest, hrest.symm⟩ fun c hc => ?_
    have hhead := List.head?_dropWhile_not Text.isBlank tail
    rw [Option.mem_def] at hc
    rwa [hc] at hhead
  -- The blanks in front of the clause are all taken again.
  have htake := takeWhile_append_of_head (blanks_takeWhile tail) hvisible
  have hdrop : (tail.takeWhile Text.isBlank ++ w.text).dropWhile Text.isBlank = w.text ++ [] := by
    have hsplit := List.takeWhile_append_dropWhile (p := Text.isBlank) (l := tail.takeWhile Text.isBlank ++ w.text)
    rw [htake] at hsplit
    rw [List.append_cancel_left hsplit, List.append_nil]
  have hfits := validate_filtered hline (Text.forall_head?_of_prefix hfront hapart) hdrop (by simp [StartsApart])
  rw [htake] at hfits
  exact hfits

theorem standsAlone_of_unfiltered (f : Selection) (tail : List Char) :
    (f.command none (f.text ++ tail.takeWhile Text.isBlank) (tail.dropWhile Text.isBlank)).StandsAlone .select := by
  refine ⟨f.text, _, blanks_takeWhile tail, rfl, closed_selection f, fun line hline => ?_⟩
  have htext : normalize line = f.text ++ [] := by rw [hline, List.append_nil]
  have hnone : ¬ ∃ w : Filter, w.text <+: ([] : List Char).dropWhile Text.isBlank := by
    rintro ⟨w, hw⟩
    exact (closed_filter w).ne_nil (List.prefix_nil.mp hw)
  have hfits := validate_unfiltered htext (by simp [StartsApart]) hnone
  rw [List.takeWhile_nil, List.append_nil] at hfits
  exact hfits

theorem standsAlone_of_select (h : validate .select line = .ok command) : command.StandsAlone .select := by
  obtain ⟨first, hfirst⟩ := exists_selection_of_fits h
  obtain ⟨f, tail, htext, hapart, -⟩ := Selection.exists_whole hfirst
  by_cases hfilter : ∃ w : Filter, w.text <+: tail.dropWhile Text.isBlank
  · obtain ⟨w, more, hmore⟩ := hfilter
    obtain ⟨whole, rest, hsplit, hbehind, -⟩ := w.exists_whole more
    have hrest := hmore.symm.trans hsplit
    obtain rfl := Except.ok.inj (h.symm.trans (validate_filtered htext hapart hrest hbehind))
    exact standsAlone_of_filtered hapart hrest
  · obtain rfl := Except.ok.inj (h.symm.trans (validate_unfiltered htext hapart hfilter))
    exact standsAlone_of_unfiltered f tail

theorem standsAlone (h : validate kind line = .ok command) : command.StandsAlone kind := by
  cases kind with
  | createTable => exact standsAlone_of_readAsWritten (Or.inl rfl) h
  | createIndex => exact standsAlone_of_readAsWritten (Or.inr rfl) h
  | dropTable | dropIndex | displayTable => exact standsAlone_of_named rfl h
  | insertInto => exact standsAlone_of_insertInto h
  | deleteFrom => exact standsAlone_of_deleteFrom h
  | select => exact standsAlone_of_select h
  | update => exact standsAlone_of_update h

/-! ## The matched text on a line -/

theorem toList_matched_append_remainder (h : validate kind line = .ok command) :
    (command.matched ++ command.remainder).toList = normalize line := by
  obtain ⟨r, hr, rfl⟩ := validate_eq_ok_iff.mp h
  rw [← (derives_of_read? hr).2]
  simp [ofReading]

theorem isWhiteSpace_head_of_matched (h : validate kind line = .ok command)
    (hmatched : command.matched = String.ofList (text ++ back)) :
    ∀ c ∈ text.head?, Text.isWhiteSpace c = false := by
  have hsplit := toList_matched_append_remainder h
  rw [String.toList_append, hmatched, String.toList_ofList, List.append_assoc] at hsplit
  exact Text.forall_head?_of_prefix ⟨_, hsplit⟩ (isWhiteSpace_head_normalize line)

theorem validate_matched (h : validate kind line = .ok command) :
    validate kind command.matched =
      .ok { command with matched := String.ofList (Text.trimEnd command.matched.toList), remainder := "" } := by
  obtain ⟨front, blanks, hblanks, hmatched, hclosed, halone⟩ := standsAlone h
  have hwhite : Text.White blanks := fun c hc => Text.isWhiteSpace_of_isBlank (hblanks c hc)
  have hlast := hclosed.isWhiteSpace_last
  have htext : command.matched.toList = [] ++ (front ++ blanks) := by
    rw [hmatched, String.toList_ofList, List.nil_append]
  have hnormal : normalize command.matched = front :=
    normalize_spaced htext Text.white_nil hwhite (isWhiteSpace_head_of_matched h hmatched) hlast
      hclosed.last_ne_semicolon
  rw [htext, List.nil_append, Text.trimEnd_append hwhite hlast]
  exact halone _ hnormal

theorem validate_matched_append (hkind : kind = .createTable ∨ kind = .createIndex)
    (h : validate kind line = .ok command) (more : String) :
    ∃ tail, validate kind (command.matched ++ more) = .ok { command with remainder := tail } := by
  obtain ⟨text, parts, rest, ⟨hclosed, hreads⟩, rfl⟩ := exists_readAsWritten hkind h
  have hfirst : ∀ c ∈ text.head?, Text.isWhiteSpace c = false :=
    isWhiteSpace_head_of_matched h (congrArg String.ofList (List.append_nil text).symm)
  have hline : (String.ofList text ++ more).toList = text ++ more.toList := by
    rw [String.toList_append, String.toList_ofList]
  obtain ⟨tail, htext⟩ := exists_normalize_append hclosed.ne_nil hfirst hclosed.isWhiteSpace_last
    hclosed.last_ne_semicolon hline
  exact ⟨String.ofList tail, hreads _ tail htext⟩

/-- What a command covers and what it leaves over make up the line. The text that it covers is read as the
same command, and all of it but the white space at its end is covered again. A CREATE TABLE and a CREATE
INDEX are also read the same way with any text behind the one they cover. -/
theorem matched_text_decides (h : validate kind line = .ok command) :
    (command.matched ++ command.remainder).toList = normalize line ∧
    validate kind command.matched =
      .ok { command with matched := String.ofList (Text.trimEnd command.matched.toList), remainder := "" } ∧
    (kind = .createTable ∨ kind = .createIndex → ∀ more : String,
      ∃ tail, validate kind (command.matched ++ more) = .ok { command with remainder := tail }) := by
  refine ⟨toList_matched_append_remainder h, validate_matched h, fun hkind more => ?_⟩
  exact validate_matched_append hkind h more

theorem matched_text_decides_of_index :
    let command : Command :=
      ⟨.createIndex, [(.ifNotExists, ""), (.index, "IF"), (.table, "t"), (.column, "c")],
        "create index IF\ton t( c)", " ;, d"⟩
    validate .createIndex " create index IF\ton t( c) ;, d;" = .ok command ∧
      (command.matched ++ command.remainder).toList = normalize " create index IF\ton t( c) ;, d;" ∧
      validate .createIndex command.matched =
        .ok { command with matched := String.ofList (Text.trimEnd command.matched.toList), remainder := "" } ∧
      ∃ tail, validate .createIndex (command.matched ++ "); drop table t") = .ok { command with remainder := tail } := by
  intro command
  have hfits : validate .createIndex " create index IF\ton t( c) ;, d;" = .ok command := rfl
  obtain ⟨hsplit, halone, hmore⟩ := matched_text_decides hfits
  exact ⟨hfits, hsplit, halone, hmore (Or.inr rfl) _⟩

end SchemaShell.Command
