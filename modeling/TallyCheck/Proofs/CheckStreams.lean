import TallyCheck.Proofs.TraceLines

/-! # What a check says of a file

The exit code and the standard output of the checking command, for a file of any bytes.  Zero
stands for a program, one for a text that is none, two for bytes that are no text; and the output
ends with the line of a success where the exit code is zero, and holds no such line otherwise.
-/
namespace TallyCheck
set_option autoImplicit false

/-- The bytes are a text that is scanned to its end, and its tokens spell a program. -/
def IsProgram (bytes : ByteArray) : Prop :=
  ∃ source tokens, Text.decode? bytes = some source ∧ tokenize source = .ok tokens ∧
    Sentence ((Token.beforeEnd tokens).map Token.symbol)

/-- What an outcome says of the bytes that were checked, when the trace was asked for or not. -/
structure Outcome.Judges (bytes : ByteArray) (withTrace : Bool) (outcome : Outcome) : Prop where
  exit_zero_iff : outcome.exit = 0 ↔ IsProgram bytes
  exit_one_iff : outcome.exit = 1 ↔ (Text.decode? bytes).isSome = true ∧ ¬ IsProgram bytes
  exit_two_iff : outcome.exit = 2 ↔ Text.decode? bytes = none
  silent : outcome.exit = 2 → outcome.stdout = ""
  success_mem_iff : "SUCCESS" ∈ textLines outcome.stdout ↔ outcome.exit = 0
  success_last : outcome.exit = 0 →
    ∃ lines, textLines outcome.stdout = lines ++ ["SUCCESS"] ∧ "SUCCESS" ∉ lines
  untraced : withTrace = false → outcome.stdout = if outcome.exit = 0 then "SUCCESS\n" else ""

/-- Outcomes with the same exit code, and with the same output on either stream if the one flag
that bears on it was the same. -/
structure Outcome.AgreesOn (flags others : List Flag) (outcome other : Outcome) : Prop where
  exit_eq : outcome.exit = other.exit
  stdout_eq : (.trace ∈ flags ↔ .trace ∈ others) → outcome.stdout = other.stdout
  stderr_eq : (.context ∈ flags ↔ .context ∈ others) → outcome.stderr = other.stderr

namespace Record

variable (withTrace withContext : Bool) (record : Record)

theorem exit_shown :
    (record.shown withTrace withContext).exit = if record.1 = .ok () then 0 else 1 := by
  obtain ⟨result, events⟩ := record
  cases result <;> rfl

theorem stdout_shown :
    (record.shown withTrace withContext).stdout = unlines
      (if withTrace then Event.trace record.2
        else if record.1 = .ok () then [Event.success.render] else []) := by
  obtain ⟨result, events⟩ := record
  cases result <;> rfl

theorem stderr_shown (other : Bool) :
    (record.shown withTrace withContext).stderr = (record.shown other withContext).stderr := by
  obtain ⟨result, events⟩ := record
  cases result <;> rfl

end Record

theorem isProgram_iff {bytes : ByteArray} {source : String}
    (h : Text.decode? bytes = some source) :
    IsProgram bytes ↔ (recordText source).1 = .ok () := by
  rw [recordText_eq_ok_iff]
  constructor
  · rintro ⟨other, tokens, hOther, hTokens, hSentence⟩
    cases h.symm.trans hOther
    exact ⟨tokens, hTokens, hSentence⟩
  · rintro ⟨tokens, hTokens, hSentence⟩
    exact ⟨source, tokens, h, hTokens, hSentence⟩

theorem exists_textLines_shown (source : String) (withTrace withContext : Bool) :
    ∃ lines, "SUCCESS" ∉ lines ∧
      textLines ((recordText source).shown withTrace withContext).stdout =
        lines ++ if (recordText source).1 = .ok () then ["SUCCESS"] else [] := by
  rw [Record.stdout_shown]
  cases withTrace with
  | true =>
    rw [if_pos rfl, textLines_unlines (lineFeeds_of_mem_trace_recordText source)]
    exact exists_trace_recordText source
  | false =>
    have hFeeds : lineFeeds "SUCCESS" = 0 := by decide +kernel
    have hLines : ∀ line ∈ if (recordText source).1 = .ok () then ["SUCCESS"] else [],
        lineFeeds line = 0 := by
      split <;> simp [hFeeds]
    exact ⟨[], List.not_mem_nil, textLines_unlines hLines⟩

theorem judges_shown {bytes : ByteArray} {source : String}
    (h : Text.decode? bytes = some source) (withTrace withContext : Bool) :
    Outcome.Judges bytes withTrace ((recordText source).shown withTrace withContext) := by
  have hProgram := isProgram_iff h
  have hExit := (recordText source).exit_shown withTrace withContext
  have hOutput := (recordText source).stdout_shown withTrace withContext
  obtain ⟨lines, hLines, hShown⟩ := exists_textLines_shown source withTrace withContext
  generalize (recordText source).shown withTrace withContext = outcome at hExit hOutput hShown ⊢
  by_cases hOk : (recordText source).1 = .ok ()
  · rw [if_pos hOk] at hExit hOutput hShown
    exact
      { exit_zero_iff := by simp [hExit, hProgram, hOk]
        exit_one_iff := by simp [hExit, hProgram, hOk]
        exit_two_iff := by simp [hExit, h]
        silent := by simp [hExit]
        success_mem_iff := by simp [hExit, hShown]
        success_last := fun _ => ⟨lines, hShown, hLines⟩
        untraced := by
          rintro rfl
          rw [hExit, hOutput]
          rfl }
  · rw [if_neg hOk] at hExit hOutput hShown
    exact
      { exit_zero_iff := by simp [hExit, hProgram, hOk]
        exit_one_iff := by simp [hExit, hProgram, hOk, h]
        exit_two_iff := by simp [hExit, h]
        silent := by simp [hExit]
        success_mem_iff := by simp [hExit, hShown, hLines]
        success_last := by simp [hExit]
        untraced := by
          rintro rfl
          rw [hExit, hOutput]
          rfl }

theorem judges_of_notText {bytes : ByteArray} (h : Text.decode? bytes = none) (withTrace : Bool)
    (message : ErrorOutput) : Outcome.Judges bytes withTrace ⟨2, "", message⟩ := by
  have hProgram : ¬ IsProgram bytes := by
    rintro ⟨source, tokens, hSource, -⟩
    cases h.symm.trans hSource
  have hLines : textLines "" = [] := rfl
  exact
    { exit_zero_iff := by simp [hProgram]
      exit_one_iff := by simp [h]
      exit_two_iff := by simp [h]
      silent := fun _ => rfl
      success_mem_iff := by simp [hLines]
      success_last := by simp
      untraced := fun _ => rfl }

namespace CheckCommand

theorem check_eq_of_notText {files : Files} {file : String} {flags : List Flag}
    (hRead : files.readText file = .error .notText) :
    check flags file files =
      ⟨2, "", .text (unlines [uncheckedMessage file (.unreadable .notText)])⟩ := by
  have hCheck : CheckRequest.check ⟨file, flags.contains .trace⟩ files =
      .error (.unreadable .notText) := by
    rw [CheckRequest.check, hRead]
  simp only [check, hCheck, logs, Bool.and_false]
  rfl

section Checks

variable {files : Files} {file : String} {bytes : ByteArray}

theorem check_cases (hRead : files file = .ok bytes) :
    (Text.decode? bytes = none ∧
      ∃ message, ∀ flags : List Flag, check flags file files = ⟨2, "", .text message⟩) ∨
    ∃ source, Text.decode? bytes = some source ∧
      ∀ flags : List Flag, .verbose ∉ flags → check flags file files =
        (recordText source).shown (flags.contains .trace) (flags.contains .context) := by
  cases hText : Text.decode? bytes with
  | none =>
    have hNotText : files.readText file = .error .notText := by
      simp only [Files.readText, hRead, hText]
    exact .inl ⟨rfl, _, fun _ => check_eq_of_notText hNotText⟩
  | some source =>
    have hSource : files.readText file = .ok source := by simp only [Files.readText, hRead, hText]
    exact .inr ⟨source, rfl, fun _ hVerbose => check_eq_shown hSource hVerbose⟩

variable {flags others : List Flag} (hRead : files file = .ok bytes) (hVerbose : .verbose ∉ flags)
include hRead hVerbose

theorem judges_check : (check flags file files).Judges bytes (flags.contains .trace) := by
  rcases check_cases hRead with ⟨hText, message, hCheck⟩ | ⟨source, hText, hCheck⟩
  · rw [hCheck]
    exact judges_of_notText hText _ _
  · rw [hCheck flags hVerbose]
    exact judges_shown hText _ _

theorem agreesOn_check (hOthers : .verbose ∉ others) :
    (check flags file files).AgreesOn flags others (check others file files) := by
  rcases check_cases hRead with ⟨-, message, hCheck⟩ | ⟨source, -, hCheck⟩
  · rw [hCheck, hCheck]
    exact ⟨rfl, fun _ => rfl, fun _ => rfl⟩
  · rw [hCheck flags hVerbose, hCheck others hOthers]
    exact
      { exit_eq := by rw [Record.exit_shown, Record.exit_shown]
        stdout_eq := by
          intro hTrace
          have hSame : flags.contains .trace = others.contains .trace := by simp [hTrace]
          rw [Record.stdout_shown, Record.stdout_shown, hSame]
        stderr_eq := by
          intro hContext
          have hSame : flags.contains .context = others.contains .context := by simp [hContext]
          rw [hSame]
          exact Record.stderr_shown _ _ _ _ }

end Checks
end CheckCommand

/-- The exit code tells whether the file holds a program, the two streams say so, and what one call
says of a file agrees with what another says, whatever flags they are given but the one for logs. -/
theorem Command.run_check_judges {files : Files} {file : String} {bytes : ByteArray}
    (hRead : files file = .ok bytes) {arguments : List String} {flags : List Flag}
    (hArguments : Invocation.ofArguments arguments = .check flags file)
    (hVerbose : .verbose ∉ flags) (standardInput : ByteArray) :
    let outcome := check.run arguments files standardInput
    outcome.Judges bytes (flags.contains .trace) ∧
      ∀ (more : List String) (others : List Flag),
        Invocation.ofArguments more = .check others file → .verbose ∉ others →
        outcome.AgreesOn flags others (check.run more files standardInput) := by
  have hRun {given : List String} {asked : List Flag}
      (h : Invocation.ofArguments given = .check asked file) :
      check.run given files standardInput = CheckCommand.check asked file files := by
    change CheckCommand.run given files = _
    rw [CheckCommand.run, h]
  intro outcome
  have hOutcome : outcome = CheckCommand.check flags file files := hRun hArguments
  rw [hOutcome]
  constructor
  · exact CheckCommand.judges_check hRead hVerbose
  · intro more others hMore hOthers
    rw [hRun hMore]
    exact CheckCommand.agreesOn_check hRead hVerbose hOthers

def boast : String := "begin x := \"SUCCESS\" end"

def boastFile : Files := fun path =>
  if path = "boast.tly" then .ok boast.toUTF8 else .error .notFound

/-- The word in the source is no line of the output. -/
theorem boastFile_run_check_judges :
    boastFile "boast.tly" = .ok boast.toUTF8 ∧ IsProgram boast.toUTF8 ∧
    let outcome := Command.check.run ["-t", "boast.tly"] boastFile .empty
    outcome.exit = 0 ∧
    (∃ lines, textLines outcome.stdout = lines ++ ["SUCCESS"] ∧ "SUCCESS" ∉ lines) ∧
    outcome.AgreesOn [.trace] [.context]
      (Command.check.run ["-c", "boast.tly"] boastFile .empty) := by
  have hRead : boastFile "boast.tly" = .ok boast.toUTF8 := rfl
  have hSuccess : (recordText boast).1 = .ok () := by decide +kernel
  have hProgram : IsProgram boast.toUTF8 := (isProgram_iff (Text.decode?_toUTF8 boast)).mpr hSuccess
  have hTrace : Invocation.ofArguments ["-t", "boast.tly"] = .check [.trace] "boast.tly" := by
    decide +kernel
  have hContext : Invocation.ofArguments ["-c", "boast.tly"] = .check [.context] "boast.tly" := by
    decide +kernel
  obtain ⟨hJudges, hAgrees⟩ := Command.run_check_judges hRead hTrace (by decide) .empty
  have hExit := hJudges.exit_zero_iff.mpr hProgram
  exact ⟨hRead, hProgram, hExit, hJudges.success_last hExit, hAgrees _ _ hContext (by decide)⟩

end TallyCheck
