import SchemaShell.Proofs.Console.Manner

/-!
# Sinks that fill up

A sink that takes only so many bytes cuts the output of a dialogue off there and changes nothing before.
Each byte of the whole output is stamped with the moment in which it is written; the dialogue that is cut
off ends in the session of the first byte that did not fit.
-/

namespace SchemaShell.Console

variable {σ : Type}

/-- Where a dialogue stands: all that it has received, and its session. -/
structure Moment (σ : Type) where
  taken : List Received
  session : Session σ

/-- A text that is written in this moment. -/
def Moment.stamp (moment : Moment σ) (text : String) : List (UInt8 × Moment σ) :=
  (Text.bytes text).map fun byte => (byte, moment)

/-- All that a dialogue writes, each byte with its moment: a prompt before something is received, an answer
after it was dealt with. -/
def Mode.spoken (mode : Mode σ) : Moment σ → List Received → List (UInt8 × Moment σ)
  | _, [] => []
  | moment, received :: rest =>
    let reaction := mode.react moment.session received
    let after : Moment σ := ⟨moment.taken ++ [received], reaction.session⟩
    moment.stamp mode.prompt ++ (after.stamp reaction.text ++
      match reaction.ending with
      | some _ => []
      | none => mode.spoken after rest)

def Mode.written (mode : Mode σ) (session : Session σ) (input : Input) : List (UInt8 × Moment σ) :=
  let start : Moment σ := ⟨[], session⟩
  start.stamp mode.opening ++ mode.spoken start input.received

theorem Moment.map_fst_stamp (moment : Moment σ) (text : String) :
    (moment.stamp text).map Prod.fst = Text.bytes text := by
  simp [stamp, Function.comp_def]

theorem Moment.length_stamp (moment : Moment σ) (text : String) :
    (moment.stamp text).length = (Text.bytes text).length :=
  List.length_map _

theorem Moment.eq_of_mem_stamp {byte : UInt8} {moment own : Moment σ} {text : String}
    (h : (byte, moment) ∈ own.stamp text) : moment = own := by
  obtain ⟨_, -, heq⟩ := List.mem_map.mp h
  exact (congrArg Prod.snd heq).symm

theorem Moment.getElem?_stamp (moment : Moment σ) {text : String} {n : Nat}
    (h : n < (Text.bytes text).length) :
    ∃ byte, (moment.stamp text)[n]? = some (byte, moment) :=
  ⟨(Text.bytes text)[n], by rw [stamp, List.getElem?_map, List.getElem?_eq_getElem h]; rfl⟩

theorem Moment.getElem?_append_stamp (moment : Moment σ) (front tail : List (UInt8 × Moment σ))
    (text : String) {n : Nat} (hstart : front.length ≤ n)
    (hend : n < front.length + (Text.bytes text).length) :
    ∃ byte, (front ++ (moment.stamp text ++ tail))[n]? = some (byte, moment) := by
  have hn : n - front.length < (Text.bytes text).length := by omega
  rw [List.getElem?_append_right hstart, List.getElem?_append_left (by rwa [moment.length_stamp])]
  exact moment.getElem?_stamp hn

/-! ## One text -/

/-- How a dialogue on a sink with room for `n` bytes relates to the same one without a limit, which writes the
bytes of `spoken`. -/
structure Truncates (reason : String) (n : Nat) (spoken : List (UInt8 × Moment σ))
    (full cut : Transcript σ) : Prop where
  bytes : spoken.map Prod.fst = full.output
  output : cut.output = full.output.take n
  events : cut.events <+: full.events
  whole : full.output.length ≤ n → cut = full
  broken : n < full.output.length →
    cut.result = .error (.unwritable reason) ∧
      ∃ byte moment, spoken[n]? = some (byte, moment) ∧ cut.session = moment.session

namespace Truncates

variable {reason : String} {n : Nat} {spoken : List (UInt8 × Moment σ)} {full cut : Transcript σ}

theorem ending (reason : String) (n : Nat) (session : Session σ) (result : Except Fault Unit) :
    Truncates reason n [] (.ending session result) (.ending session result) where
  bytes := rfl
  output := List.take_nil.symm
  events := List.prefix_rfl
  whole _ := rfl
  broken h := absurd h (Nat.not_lt_zero n)

theorem afterEvents (h : Truncates reason n spoken full cut) (events : List Journal.Event) :
    Truncates reason n spoken (full.afterEvents events) (cut.afterEvents events) where
  bytes := h.bytes
  output := h.output
  events := List.prefix_append_right_inj events |>.mpr h.events
  whole hlength := congrArg (Transcript.afterEvents events) (h.whole hlength)
  broken := h.broken

theorem afterOutput (moment : Moment σ) {text : String} (hfits : (Text.bytes text).length ≤ n)
    (h : Truncates reason (n - (Text.bytes text).length) spoken full cut) :
    Truncates reason n (moment.stamp text ++ spoken) (full.afterOutput (Text.bytes text))
      (cut.afterOutput (Text.bytes text)) where
  bytes := by
    rw [List.map_append, moment.map_fst_stamp, h.bytes]
    rfl
  output := by
    simp only [Transcript.afterOutput]
    rw [h.output, List.take_append, List.take_of_length_le hfits]
  events := h.events
  whole hlength := by
    simp only [Transcript.afterOutput, List.length_append] at hlength
    exact congrArg (Transcript.afterOutput (Text.bytes text)) (h.whole (by omega))
  broken hlength := by
    simp only [Transcript.afterOutput, List.length_append] at hlength
    rw [List.getElem?_append_right (by rwa [moment.length_stamp]), moment.length_stamp]
    exact h.broken (by omega)

theorem stopped (moment : Moment σ) {text : String} (hfull : n < (Text.bytes text).length)
    (hbytes : spoken.map Prod.fst = full.output) :
    Truncates reason n (moment.stamp text ++ spoken) (full.afterOutput (Text.bytes text))
      ⟨.error (.unwritable reason), (Text.bytes text).take n, moment.session, []⟩ where
  bytes := by
    rw [List.map_append, moment.map_fst_stamp, hbytes]
    rfl
  output := (List.take_append_of_le_length hfull.le).symm
  events := List.nil_prefix
  whole hlength := by
    simp only [Transcript.afterOutput, List.length_append] at hlength
    omega
  broken _ := by
    obtain ⟨byte, hbyte⟩ := moment.getElem?_stamp hfull
    refine ⟨rfl, byte, moment, ?_, rfl⟩
    rw [List.getElem?_append_left (by rwa [moment.length_stamp]), hbyte]

theorem say (moment : Moment σ) (text : String) {next : Sink → Transcript σ}
    (h : ∀ room, Truncates reason room spoken (next .unlimited) (next ⟨some room, reason⟩)) (n : Nat) :
    Truncates reason n (moment.stamp text ++ spoken) (say .unlimited moment.session text next)
      (say ⟨some n, reason⟩ moment.session text next) := by
  rw [say_unlimited, Console.say]
  -- A text that fits uses up its part of the room, and one that does not is the last.
  by_cases hfits : (Text.bytes text).length ≤ n
  · have hroom : (⟨some n, reason⟩ : Sink).fits (Text.bytes text) = true := by
      simpa [Sink.fits] using hfits
    rw [if_pos hroom]
    exact (h _).afterOutput moment hfits
  · have hroom : ¬(⟨some n, reason⟩ : Sink).fits (Text.bytes text) = true := by
      simpa [Sink.fits] using hfits
    rw [if_neg hroom]
    exact stopped moment (Nat.lt_of_not_le hfits) (h 0).bytes

theorem session_eq (h : Truncates reason n spoken full cut) {byte : UInt8} {moment : Moment σ}
    (hbyte : spoken[n]? = some (byte, moment)) : cut.session = moment.session := by
  have hlength : n < full.output.length := by
    rw [← h.bytes, List.length_map]
    exact (List.getElem?_eq_some_iff.mp hbyte).1
  obtain ⟨-, byte', moment', hbyte', hsession⟩ := h.broken hlength
  rw [hbyte, Option.some.injEq, Prod.mk.injEq] at hbyte'
  rw [hsession, ← hbyte'.2]

/-! ## A whole dialogue -/

theorem converse (mode : Mode σ) (moment : Moment σ) (all : List Received) (n : Nat) :
    Truncates reason n (mode.spoken moment all) (converse mode .unlimited moment.session all)
      (converse mode ⟨some n, reason⟩ moment.session all) := by
  induction all generalizing moment n with
  | nil => exact ending reason n moment.session (.ok ())
  | cons received rest ih =>
    -- The prompt is written in the moment before, the answer in the one after.
    rw [Mode.spoken, converse_cons, converse_cons]
    refine say moment mode.prompt (fun room => ?_) n
    refine .afterEvents ?_ _
    let after : Moment σ :=
      ⟨moment.taken ++ [received], (mode.react moment.session received).session⟩
    refine say after _ (fun room => ?_) room
    cases hending : (mode.react moment.session received).ending with
    | some result => exact ending reason room _ result
    | none => exact ih after room

theorem run (mode : Mode σ) (session : Session σ) (input : Input) (n : Nat) :
    Truncates reason n (mode.written session input) (mode.run .unlimited session input)
      (mode.run ⟨some n, reason⟩ session input) :=
  say ⟨[], session⟩ mode.opening (fun room => converse mode ⟨[], session⟩ input.received room) n

end Truncates

/-! ## Which commands are carried out -/

namespace Manner

/-- Where a dialogue stands that has received these. -/
def momentAfter (manner : Manner) (handler : Handler σ) (session : Session σ) (taken : List Received) :
    Moment σ :=
  ⟨taken, session.processAll handler (taken.filterMap manner.command?)⟩

variable (manner : Manner) (handler : Handler σ) (quiet : Bool) (session : Session σ)

theorem momentAfter_concat (taken : List Received) (received : Received) :
    (⟨taken ++ [received], ((manner.mode handler quiet).react
        (manner.momentAfter handler session taken).session received).session⟩ : Moment σ) =
      manner.momentAfter handler session (taken ++ [received]) := by
  rw [session_react, momentAfter, momentAfter, ← Session.processAll_append, List.filterMap_append]
  cases hcommand : manner.command? received <;> simp [hcommand]

theorem spoken_cons (taken : List Received) (received : Received) (rest : List Received) :
    (manner.mode handler quiet).spoken (manner.momentAfter handler session taken) (received :: rest) =
      (manner.momentAfter handler session taken).stamp (manner.mode handler quiet).prompt ++
        ((manner.momentAfter handler session (taken ++ [received])).stamp
            ((manner.mode handler quiet).react
              (manner.momentAfter handler session taken).session received).text ++
          if manner.goesOn received then
            (manner.mode handler quiet).spoken
              (manner.momentAfter handler session (taken ++ [received])) rest
          else []) := by
  rw [Mode.spoken, ← momentAfter_concat manner handler quiet, ending_react, goesOn]
  cases manner.ending? received <;> rfl

theorem spoken_append (taken rest : List Received) {before : List Received}
    (h : ∀ received ∈ before, manner.ending? received = none) :
    (manner.mode handler quiet).spoken (manner.momentAfter handler session taken) (before ++ rest) =
      (manner.mode handler quiet).spoken (manner.momentAfter handler session taken) before ++
        (manner.mode handler quiet).spoken
          (manner.momentAfter handler session (taken ++ before)) rest := by
  induction before generalizing taken with
  | nil => rw [List.append_nil]; rfl
  | cons received before ih =>
    obtain ⟨hfirst, hrest⟩ := List.forall_mem_cons.mp h
    have hgoesOn : manner.goesOn received = true := by
      simp [goesOn, hfirst]
    rw [List.cons_append, spoken_cons, spoken_cons, if_pos hgoesOn, if_pos hgoesOn, ih _ hrest]
    simp only [List.append_assoc, List.singleton_append]

theorem moment_of_mem_spoken {byte : UInt8} {moment : Moment σ} (taken : List Received)
    {all : List Received}
    (h : (byte, moment) ∈
      (manner.mode handler quiet).spoken (manner.momentAfter handler session taken) all) :
    ∃ part, part <+: all ∧ moment = manner.momentAfter handler session (taken ++ part) := by
  induction all generalizing taken with
  | nil => cases h
  | cons received rest ih =>
    rw [spoken_cons] at h
    rcases List.mem_append.mp h with hprompt | h
    · exact ⟨[], List.nil_prefix, by rw [List.append_nil]; exact Moment.eq_of_mem_stamp hprompt⟩
    rcases List.mem_append.mp h with hanswer | h
    · exact ⟨[received], by simp, Moment.eq_of_mem_stamp hanswer⟩
    split at h
    · obtain ⟨part, hpart, hmoment⟩ := ih _ h
      refine ⟨received :: part, List.cons_prefix_cons.mpr ⟨rfl, hpart⟩, ?_⟩
      rw [hmoment, List.append_assoc, List.singleton_append]
    · cases h

theorem moment_of_mem_written {byte : UInt8} {moment : Moment σ} {input : Input}
    (h : (byte, moment) ∈ (manner.mode handler quiet).written session input) :
    ∃ taken, taken <+: input.received ∧ moment = manner.momentAfter handler session taken := by
  rcases List.mem_append.mp h with hopening | hrest
  · exact ⟨[], List.nil_prefix, Moment.eq_of_mem_stamp hopening⟩
  · exact moment_of_mem_spoken manner handler quiet session [] hrest

theorem length_spoken (mode : Mode σ) (moment : Moment σ) (all : List Received) :
    (mode.spoken moment all).length = (converse mode .unlimited moment.session all).output.length := by
  have h : Truncates "" 0 _ _ _ := .converse mode moment all 0
  rw [← h.bytes, List.length_map]

theorem written_answer {input : Input} {before rest : List Received} {received : Received}
    (hreceived : input.received = before ++ received :: rest)
    (hbefore : ∀ earlier ∈ before, manner.ending? earlier = none) :
    ∃ front tail, (manner.mode handler quiet).written session input =
        front ++ ((manner.momentAfter handler session (before ++ [received])).stamp
          ((manner.mode handler quiet).react
            (manner.momentAfter handler session before).session received).text ++ tail) ∧
      front.length = (Text.bytes (manner.mode handler quiet).opening).length +
        (converse (manner.mode handler quiet) .unlimited session before).output.length +
        (Text.bytes (manner.mode handler quiet).prompt).length := by
  let start := manner.momentAfter handler session []
  have hopening : (manner.mode handler quiet).written session input =
      start.stamp (manner.mode handler quiet).opening ++
        (manner.mode handler quiet).spoken start input.received := rfl
  rw [hopening, hreceived, spoken_append _ _ _ _ _ _ hbefore, List.nil_append, spoken_cons,
    ← List.append_assoc, ← List.append_assoc]
  refine ⟨_, _, rfl, ?_⟩
  rw [List.length_append, List.length_append, Moment.length_stamp, Moment.length_stamp, length_spoken]
  rfl

end Manner

/-- A dialogue on a sink with room for `n` bytes against the same one without a limit. Its output is the first
`n` bytes of the other's, and its journal the first events. If that is all, nothing else differs; if not,
the fault of the sink is its result, and its session is that of the moment in which the other wrote its next
byte. So a command is carried out even if its answer does not fit, and none after it is. -/
theorem full_sink_only_truncates (manner : Manner) (handler : Handler σ) (quiet : Bool)
    (session : Session σ) (input : Input) (n : Nat) (reason : String) :
    let mode := manner.mode handler quiet
    let full := mode.run .unlimited session input
    let cut := mode.run ⟨some n, reason⟩ session input
    let written := mode.written session input
    written.map Prod.fst = full.output ∧ cut.output = full.output.take n ∧
    cut.events <+: full.events ∧ (full.output.length ≤ n → cut = full) ∧
    (n < full.output.length →
      cut.result = .error (.unwritable reason) ∧
      ∃ byte moment, written[n]? = some (byte, moment) ∧ cut.session = moment.session ∧
        moment.taken <+: input.received ∧
        moment.session = session.processAll handler (moment.taken.filterMap manner.command?)) ∧
    ∀ before received rest, input.received = before ++ received :: rest →
      (∀ earlier ∈ before, manner.ending? earlier = none) →
      let answer := (mode.react (session.processAll handler (before.filterMap manner.command?)) received).text
      let position := (Text.bytes mode.opening).length +
        (converse mode .unlimited session before).output.length + (Text.bytes mode.prompt).length
      position ≤ n → n < position + (Text.bytes answer).length →
      cut.session = session.processAll handler ((before ++ [received]).filterMap manner.command?) := by
  intro mode full cut written
  have h : Truncates reason n written full cut := .run mode session input n
  refine ⟨h.bytes, h.output, h.events, h.whole, fun hlength => ?_, ?_⟩
  · obtain ⟨hresult, byte, moment, hbyte, hsession⟩ := h.broken hlength
    obtain ⟨taken, htaken, rfl⟩ :=
      Manner.moment_of_mem_written manner handler quiet session (List.mem_of_getElem? hbyte)
    exact ⟨hresult, byte, _, hbyte, hsession, htaken, rfl⟩
  · intro before received rest hreceived hbefore answer position hstart hend
    obtain ⟨front, tail, hwritten, hfront⟩ :=
      Manner.written_answer manner handler quiet session hreceived hbefore
    replace hfront : front.length = position := hfront
    obtain ⟨byte, hbyte⟩ := Moment.getElem?_append_stamp
      (manner.momentAfter handler session (before ++ [received])) front tail answer
      (hfront ▸ hstart) (hfront ▸ hend)
    exact h.session_eq ((congrArg (fun bytes => bytes[n]?) hwritten).trans hbyte)

example :
    let cut := (Mode.script .deferring true).run ⟨some 3, "full"⟩ (.start ())
      ⟨Text.bytes "CREATE TABLE t((a,number,1,0))\nDROP TABLE t\n", none⟩
    cut.result = .error (.unwritable "full") ∧ cut.output = Text.bytes "Tab" ∧
      cut.session.catalog.registry.names = ["t"] :=
  ⟨rfl, rfl, rfl⟩

end SchemaShell.Console
