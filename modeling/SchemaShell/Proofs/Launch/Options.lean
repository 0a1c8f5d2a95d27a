import SchemaShell.Launch.Options

/-!
# Which options can be given

The options that a command line can ask for, and one way to write any of them.
-/

namespace SchemaShell.Launch

theorem exists_of_bind_eq_ok {ε α β : Type} {x : Except ε α} {f : α → Except ε β} {b : β}
    (h : (x >>= f) = .ok b) : ∃ a, x = .ok a ∧ f a = .ok b := by
  cases x with
  | error e => cases h
  | ok a => exact ⟨a, rfl, h⟩

variable {progress next : Progress}

/-! ## What is kept -/

/-- The verbosity is one that is told apart, and the script has a name. -/
structure Progress.Sound (progress : Progress) : Prop where
  verbosity_le : progress.verbosity ≤ maxVerbosity
  script_ne : progress.script ≠ some ""

namespace Progress

namespace Sound

theorem takePrompt (h : progress.Sound) {text : String} (hnext : progress.takePrompt text = .ok next) :
    next.Sound := by
  rw [Progress.takePrompt] at hnext
  split at hnext
  · cases hnext
  · cases hnext
    exact ⟨h.verbosity_le, h.script_ne⟩

theorem settle (h : progress.Sound) (hnext : progress.settle = .ok next) : next.Sound := by
  have hsettled : Sound { progress with waiting := .nothing } := ⟨h.verbosity_le, h.script_ne⟩
  rw [Progress.settle] at hnext
  split at hnext
  · cases hnext
    exact hsettled
  · next path _ =>
    split at hnext
    · cases hnext
    · next hpath =>
      cases hnext
      exact ⟨h.verbosity_le, fun hscript => hpath (Option.some_inj.mp hscript)⟩
  · cases hnext
  · exact hsettled.takePrompt hnext

theorem takeFlag (h : progress.Sound) {flag : Flag} (hnext : progress.takeFlag flag = .ok next) :
    next.Sound := by
  obtain ⟨settled, hsettled, hflag⟩ := exists_of_bind_eq_ok hnext
  have hsound := h.settle hsettled
  cases flag with
  | quiet =>
    dsimp only at hflag
    split at hflag
    · cases hflag
    · cases hflag
      exact ⟨hsound.verbosity_le, hsound.script_ne⟩
  | verbose =>
    cases hflag
    exact ⟨Nat.min_le_right _ _, hsound.script_ne⟩
  | help | version => cases hflag

theorem takeLong (h : progress.Sound) {name : String} {value : Option String}
    (hnext : progress.takeLong name value = .ok next) : next.Sound := by
  unfold Progress.takeLong at hnext
  cases hflag : Flag.ofLong? name with
  | some flag =>
    rw [hflag] at hnext
    cases value with
    | none => exact h.takeFlag hnext
    | some value => cases hnext
  | none =>
    simp only [hflag] at hnext
    split at hnext
    · obtain ⟨settled, hsettled, hvalue⟩ := exists_of_bind_eq_ok hnext
      have hsound := h.settle hsettled
      cases value with
      | none =>
        cases hvalue
        exact ⟨hsound.verbosity_le, hsound.script_ne⟩
      | some text => exact hsound.takePrompt hvalue
    · cases hnext

theorem takeShorts (h : progress.Sound) {letters : List Char}
    (hnext : progress.takeShorts letters = .ok next) : next.Sound := by
  induction letters generalizing progress with
  | nil =>
    cases hnext
    exact h
  | cons letter letters ih =>
    rw [Progress.takeShorts] at hnext
    split at hnext
    · cases hnext
    · obtain ⟨taken, htaken, hrest⟩ := exists_of_bind_eq_ok hnext
      exact ih (h.takeFlag htaken) hrest

theorem takePlain (h : progress.Sound) {text : String} (hnext : progress.takePlain text = .ok next) :
    next.Sound := by
  rw [Progress.takePlain] at hnext
  split at hnext
  · cases hnext
  · obtain ⟨settled, hsettled, hplain⟩ := exists_of_bind_eq_ok hnext
    cases hplain
    exact ⟨(h.settle hsettled).verbosity_le, (h.settle hsettled).script_ne⟩

theorem take (h : progress.Sound) {argument : String} (hnext : progress.take argument = .ok next) :
    next.Sound := by
  rw [Progress.take] at hnext
  split at hnext
  · exact h.takeLong hnext
  · exact h.takeShorts hnext
  · split at hnext
    · cases hnext
      exact ⟨h.verbosity_le, h.script_ne⟩
    · exact h.takePlain hnext

theorem foldlM_takePlain (h : progress.Sound) {arguments : List String}
    (hnext : arguments.foldlM Progress.takePlain progress = .ok next) : next.Sound := by
  induction arguments generalizing progress with
  | nil =>
    cases hnext
    exact h
  | cons argument arguments ih =>
    rw [List.foldlM_cons] at hnext
    obtain ⟨taken, htaken, hrest⟩ := exists_of_bind_eq_ok hnext
    exact ih (h.takePlain htaken) hrest

theorem takeAll (h : progress.Sound) {arguments : List String}
    (hnext : progress.takeAll arguments = .ok next) : next.Sound := by
  fun_induction Progress.takeAll progress arguments with
  | case1 progress => exact h.settle hnext
  | case2 progress arguments =>
    obtain ⟨taken, htaken, hsettled⟩ := exists_of_bind_eq_ok hnext
    exact (h.foldlM_takePlain htaken).settle hsettled
  | case3 progress argument arguments hplain ih =>
    obtain ⟨taken, htaken, hrest⟩ := exists_of_bind_eq_ok hnext
    exact ih taken (h.take htaken) hrest

end Sound

/-! ## What is written -/

theorem takeAll_cons {argument : String} (h : argument ≠ "--") (arguments : List String) :
    progress.takeAll (argument :: arguments) = progress.take argument >>= fun next => next.takeAll arguments := by
  rw [Progress.takeAll]
  exact h

theorem settle_of_nothing (h : progress.waiting = .nothing) : progress.settle = .ok progress := by
  obtain ⟨script, quiet, verbosity, prompt, waiting, scriptGiven⟩ := progress
  obtain rfl : waiting = .nothing := h
  rfl

theorem take_verbose (h : progress.waiting = .nothing) (hmore : progress.verbosity < maxVerbosity) :
    progress.take "--verbose" = .ok { progress with verbosity := progress.verbosity + 1 } := by
  have htake : progress.take "--verbose" = progress.takeFlag .verbose := rfl
  have hsum : min (progress.verbosity + 1) maxVerbosity = progress.verbosity + 1 := Nat.min_eq_left hmore
  rw [htake, takeFlag, settle_of_nothing h, ← hsum]
  rfl

theorem takeAll_verbose (count : Nat) (arguments : List String) (h : progress.waiting = .nothing)
    (hmore : progress.verbosity + count ≤ maxVerbosity) :
    progress.takeAll (List.replicate count "--verbose" ++ arguments) =
      { progress with verbosity := progress.verbosity + count }.takeAll arguments := by
  induction count generalizing progress with
  | zero => rfl
  | succ count ih =>
    rw [List.replicate_succ, List.cons_append, takeAll_cons (by decide), take_verbose h (by omega)]
    have hsum : progress.verbosity + 1 + count = progress.verbosity + (count + 1) := by omega
    have hrest := @ih { progress with verbosity := progress.verbosity + 1 } h (by rw [hsum]; exact hmore)
    rw [hsum] at hrest
    exact hrest

theorem take_prompt (h : progress.waiting = .nothing) (hnone : progress.prompt = none) (prompt : String) :
    progress.take ("--prompt=" ++ prompt) = .ok { progress with prompt := some prompt } := by
  have htext : ("--prompt=" ++ prompt).toList = '-' :: '-' :: ("prompt".toList ++ '=' :: prompt.toList) := by
    rw [String.toList_append]
    rfl
  have hsplit : splitValue ("prompt".toList ++ '=' :: prompt.toList) = ("prompt", some prompt) := by
    simp [splitValue]
  have hflag : Flag.ofLong? "prompt" = none := rfl
  have htake : progress.take ("--prompt=" ++ prompt) = progress.takeLong "prompt" (some prompt) := by
    simp only [take, htext, hsplit]
  simp only [htake, takeLong, hflag, if_true, settle_of_nothing h]
  change progress.takePrompt prompt = _
  rw [takePrompt, hnone]

theorem takeAll_script {script : Option String} (h : progress.waiting = .nothing)
    (hgiven : progress.scriptGiven = false) (hnone : progress.script = none) (hscript : script ≠ some "") :
    progress.takeAll ((script.map fun path => ["--", path]).getD []) =
      .ok { progress with script := script, scriptGiven := script.isSome } := by
  obtain ⟨before, quiet, verbosity, prompt, waiting, given⟩ := progress
  obtain rfl : waiting = .nothing := h
  obtain rfl : given = false := hgiven
  obtain rfl : before = none := hnone
  cases script with
  | none => rfl
  | some path =>
    have hpath : path ≠ "" := fun heq => hscript (congrArg some heq)
    have hplain : takePlain ⟨none, quiet, verbosity, prompt, .nothing, false⟩ path =
        .ok ⟨none, quiet, verbosity, prompt, .script path, true⟩ := rfl
    have hsettle : settle ⟨none, quiet, verbosity, prompt, .script path, true⟩ =
        .ok ⟨some path, quiet, verbosity, prompt, .nothing, true⟩ := if_neg hpath
    change takeAll _ ["--", path] = _
    rw [takeAll, List.foldlM_cons, hplain]
    exact hsettle

end Progress

/-- One way to write options. -/
def Options.arguments (options : Options) : List String :=
  (if options.quiet then ["--quiet"] else []) ++
    (List.replicate options.verbosity "--verbose" ++
      (("--prompt=" ++ options.prompt) :: (options.script.map fun path => ["--", path]).getD []))

theorem parse_arguments {options : Options} (hverbosity : options.verbosity ≤ Progress.maxVerbosity)
    (hscript : options.script ≠ some "") : Options.parse options.arguments = .ok options := by
  obtain ⟨script, quiet, verbosity, prompt⟩ := options
  let rest := (script.map fun path => ["--", path]).getD []
  have hquiet : ∀ arguments, Progress.start.takeAll ((if quiet then ["--quiet"] else []) ++ arguments) =
      Progress.takeAll { Progress.start with quiet := quiet } arguments := by
    intro arguments
    cases quiet with
    | false => rfl
    | true => exact Progress.takeAll_cons (by decide) arguments
  have hprompt : "--prompt=" ++ prompt ≠ "--" := by
    intro heq
    have hlength := congrArg String.length heq
    rw [String.length_append] at hlength
    change 9 + prompt.length = 2 at hlength
    omega
  have hsum : Progress.start.verbosity + verbosity = verbosity := Nat.zero_add verbosity
  have htaken : Progress.start.takeAll (Options.arguments ⟨script, quiet, verbosity, prompt⟩) =
      .ok ⟨script, quiet, verbosity, some prompt, .nothing, script.isSome⟩ :=
    calc Progress.start.takeAll (Options.arguments ⟨script, quiet, verbosity, prompt⟩)
        = Progress.takeAll { Progress.start with quiet := quiet }
            (List.replicate verbosity "--verbose" ++ ("--prompt=" ++ prompt) :: rest) := hquiet _
      _ = Progress.takeAll { Progress.start with quiet := quiet, verbosity := verbosity }
            (("--prompt=" ++ prompt) :: rest) := by
        rw [Progress.takeAll_verbose verbosity _ rfl (hsum.symm ▸ hverbosity), hsum]
      _ = Progress.takeAll { Progress.start with quiet := quiet, verbosity := verbosity, prompt := some prompt }
            rest := by
        rw [Progress.takeAll_cons hprompt, Progress.take_prompt rfl rfl]
        rfl
      _ = .ok ⟨script, quiet, verbosity, some prompt, .nothing, script.isSome⟩ :=
        Progress.takeAll_script rfl rfl rfl hscript
  rw [Options.parse, htaken]
  rfl

/-- The options that can be asked for are those with a verbosity that is told apart and with a name for the
script, if there is one. -/
theorem exists_parse_eq_ok_iff (options : Options) :
    (∃ arguments, Options.parse arguments = .ok options) ↔
      options.verbosity ≤ Progress.maxVerbosity ∧ options.script ≠ some "" := by
  constructor
  · rintro ⟨arguments, h⟩
    obtain ⟨progress, hprogress, hoptions⟩ := exists_of_bind_eq_ok h
    have hstart : Progress.start.Sound := ⟨Nat.zero_le _, by decide⟩
    have hsound := hstart.takeAll hprogress
    cases hoptions
    exact ⟨hsound.verbosity_le, hsound.script_ne⟩
  · rintro ⟨hverbosity, hscript⟩
    exact ⟨options.arguments, parse_arguments hverbosity hscript⟩

end SchemaShell.Launch
