import RisingIntelligence.Brief.CodexAnswer
import RisingIntelligence.Shared.Throws

/-!
# Runs of the command-line model

`executeCodexCli` of `apps/brief/src/llm/codex-cli.ts`, over all outcomes of its calls: the command is
run with a prompt file, again without an output file, and with the prompt on its standard input.

* The runs share one output file, which is not cleared, so a run may read what an earlier one wrote.
* The fallback is called inside the block whose errors lead to the retry, so an error of the fallback
  may lead to the retry, and that to a second fallback.
-/

namespace RisingIntelligence.Brief

open Js (Json Schema)

/-! ## Errors -/

structure ErrorDetails where
  message : String
  code : Option String := none
  signal : Option String := none
  stdout : String := ""
  stderr : String := ""

def sliceTo (value : String) (limit : Nat) : String := String.ofList (Js.takeUnits limit value.toList)

def describeExecError (error : ErrorDetails) : String :=
  let rawMessage := Js.trim error.message
  let message :=
    if Js.startsWith rawMessage "Command failed:" then "command failed"
    else sliceTo ((Js.split '\n' rawMessage).headD "") 200
  let code := match error.code with
    | some code => " code=" ++ code
    | none => ""
  let signal := match error.signal with
    | some signal => if signal = "" then "" else " signal=" ++ signal
    | none => ""
  let stderr := sliceTo (Js.trim error.stderr) 400
  let stdout := sliceTo (Js.trim error.stdout) 200
  let output := if stderr = "" then stdout else stderr
  if output = "" then message ++ code ++ signal else message ++ code ++ signal ++ ": " ++ output

def isMissing (error : ErrorDetails) : Bool := error.code == some "ENOENT"

/-! ## Usable answers -/

def isPromptFileAccessErrorPayload (toLowerCase : String → String) (value : Json) : Bool :=
  if Schema.isObject value then
    let fields := ["error", "details", "message", "required_input", "status"].filterMap fun key =>
      (Schema.property key value).bind Schema.string
    let text := toLowerCase (" ".intercalate fields)
    Js.includes text "prompt_file_path" || Js.includes text "cannot_read_prompt_file" ||
      (Js.includes text "prompt file" && Js.includes text "cannot")
  else false

def hasExpectedBriefShape (value : Json) : Bool :=
  match (Schema.property "title" value).bind Schema.string, Schema.property "highlights" value with
  | some _, some (.array _) => true
  | _, _ => false

def shouldRetryWithStdinFallback (toLowerCase : String → String) (value : Json) : Bool :=
  isPromptFileAccessErrorPayload toLowerCase value || !hasExpectedBriefShape value

/-! ## Outcomes -/

/-- The runs of the command; fallbacks are numbered. -/
inductive Run : Type
  | file
  | retry
  | stdin (n : Nat)
  deriving DecidableEq

structure RunOutcome where
  /-- Its standard output, if it exits with 0. -/
  exit : Except ErrorDetails String
  /-- What it writes to the output file, if it is given one. -/
  written : Option String

inductive CandidateRoot : Type
  | tmpdir
  | cwd
  | homedir

structure Outcomes where
  /-- `mkdir` and `mkdtemp`, with the path. -/
  mkdtemp : CandidateRoot → Except ErrorDetails String
  writePrompt : Except ErrorDetails Unit
  run : Run → RunOutcome
  /-- The error of reading the output file after a run; `none` where the file system answers. -/
  read : Run → Option ErrorDetails
  rm : Except ErrorDetails Unit

structure Disk where
  /-- The runs that were started. -/
  runs : List Run := []
  /-- The content of the output file. -/
  output : Option String := none
  /-- The temporary directory exists. -/
  tempDir : Bool := false

/-- What the rest of the service gives these functions. -/
structure CodexRuntime where
  parser : JsonParser
  toLowerCase : String → String

/-! ## The functions -/

section Execute

variable (runtime : CodexRuntime) (outcomes : Outcomes)

def tryParseOutputMessage (message : String) : Except ErrorDetails Json :=
  (parseJsonResponse runtime.parser message).mapError fun message => { message }

/-- The value on standard output, unless that is blank. -/
def parsedStdout (stdout : String) : Option Json :=
  if Js.trim stdout = "" then none else (tryParseOutputMessage runtime stdout).toOption

/-- `execFileWithInput` -/
def Disk.start (disk : Disk) (run : Run) (outputPath : Option String) : Disk :=
  { disk with
    runs := disk.runs ++ [run]
    output :=
      match outputPath, (outcomes.run run).written with
      | some _, some content => some content
      | _, _ => disk.output }

/-- The output file after a run, read and parsed. -/
def readOutput (run : Run) (output : Option String) : Except ErrorDetails Json :=
  match outcomes.read run, output with
  | some error, _ => .error error
  | none, none => .error { message := "ENOENT: no such file or directory", code := some "ENOENT" }
  | none, some message => tryParseOutputMessage runtime message

def Disk.fallbacks (disk : Disk) : Nat := disk.runs.countP (· matches .stdin _)

/-- What the fallback makes of its run. -/
def fallbackAnswer (run : Run) (outputPath : Option String) (output : Option String) :
    Except ErrorDetails Json :=
  match (outcomes.run run).exit with
  | .error error => .error error
  | .ok stdout =>
      match parsedStdout runtime stdout with
      | some value => .ok value
      | none =>
          match outputPath with
          | none => .error { message := "Codex CLI stdin fallback produced no parseable output" }
          | some _ =>
              match readOutput runtime outcomes run output with
              | .ok value => .ok value
              | .error error =>
                  match if isMissing error then parsedStdout runtime stdout else none with
                  | some value => .ok value
                  | none => .error error

def executeCodexCliViaStdin (outputPath : Option String) (disk : Disk) :
    Except ErrorDetails Json × Disk :=
  let run := Run.stdin disk.fallbacks
  let after := disk.start outcomes run outputPath
  (fallbackAnswer runtime outcomes run outputPath after.output, after)

/-- A value that is no brief is asked for once more. -/
def answerOrFallback (outputPath : String) (value : Json) (disk : Disk) :
    Except ErrorDetails Json × Disk :=
  if shouldRetryWithStdinFallback runtime.toLowerCase value then
    executeCodexCliViaStdin runtime outcomes (some outputPath) disk
  else (.ok value, disk)

def artifactError (outputPath : String) : ErrorDetails where
  message := "Codex CLI output file missing and retry output was not parseable: " ++ outputPath
  code := some "ENOENT"

/-- The retry without an output file, whose errors are all the same. -/
def retryWithoutArtifact (outputPath : String) (disk : Disk) : Except ErrorDetails Json × Disk :=
  let disk := disk.start outcomes .retry none
  let attempt : Except ErrorDetails Json × Disk :=
    match (outcomes.run .retry).exit with
    | .error error => (.error error, disk)
    | .ok retryStdout =>
        match tryParseOutputMessage runtime retryStdout with
        | .error error => (.error error, disk)
        | .ok value => answerOrFallback runtime outcomes outputPath value disk
  (attempt.1.mapError fun _ => artifactError outputPath, attempt.2)

/-- The errors of the output file, or of the fallback that it led to. -/
def onOutputError (outputPath stdout : String) (error : ErrorDetails) (disk : Disk) :
    Except ErrorDetails Json × Disk :=
  if isMissing error then
    match parsedStdout runtime stdout with
    | some value => answerOrFallback runtime outcomes outputPath value disk
    | none => retryWithoutArtifact runtime outcomes outputPath disk
  else (.error error, disk)

/-- The run with the prompt file, and what follows from it. -/
def executeFileMode (outputPath : String) (disk : Disk) : Except ErrorDetails Json × Disk :=
  let disk := disk.start outcomes .file (some outputPath)
  match (outcomes.run .file).exit with
  | .error error => (.error error, disk)
  | .ok stdout =>
      match parsedStdout runtime stdout with
      | some value => answerOrFallback runtime outcomes outputPath value disk
      | none =>
          let attempt : Except ErrorDetails Json × Disk :=
            match readOutput runtime outcomes .file disk.output with
            | .error error => (.error error, disk)
            | .ok value => answerOrFallback runtime outcomes outputPath value disk
          match attempt.1 with
          | .ok value => (.ok value, attempt.2)
          | .error error => onOutputError runtime outcomes outputPath stdout error attempt.2

/-- The first root that a directory can be made in. -/
def createCodexTempDir : Except ErrorDetails String :=
  match outcomes.mkdtemp .tmpdir with
  | .ok tempDir => .ok tempDir
  | .error _ =>
      match outcomes.mkdtemp .cwd with
      | .ok tempDir => .ok tempDir
      | .error _ => outcomes.mkdtemp .homedir

def stdinOnly (disk : Disk) : Except ErrorDetails Json × Disk :=
  let attempt := executeCodexCliViaStdin runtime outcomes none disk
  (attempt.1.mapError fun error =>
    { message := "Codex CLI stdin fallback failed: " ++ describeExecError error }, attempt.2)

/-- The directory is removed in the `finally` of the last block only. -/
def executeCodexCli : Except ErrorDetails Json × Disk :=
  match createCodexTempDir outcomes with
  | .error _ => stdinOnly runtime outcomes {}
  | .ok tempDir =>
      match outcomes.writePrompt with
      | .error _ => stdinOnly runtime outcomes { tempDir := true }
      | .ok () =>
          let attempt :=
            executeFileMode runtime outcomes (tempDir ++ "/last-message.txt") { tempDir := true }
          match outcomes.rm with
          | .error error => (.error error, attempt.2)
          | .ok () =>
              (attempt.1.mapError fun error =>
                { message := "Codex CLI execution failed: " ++ describeExecError error },
                { attempt.2 with tempDir := false })

end Execute

/-! ## Answers of a fallback -/

section Answers

variable {runtime : CodexRuntime} {outcomes : Outcomes} {run : Run} {disk : Disk}
  {left : Option String} {outputPath : String} {value : Json}

/-- The value is parsed of the standard output of the run, or of what it wrote to the output file. -/
def FromRun (runtime : CodexRuntime) (outcomes : Outcomes) (run : Run) (value : Json) : Prop :=
  (∃ stdout, (outcomes.run run).exit = .ok stdout ∧
    parseJsonResponse runtime.parser stdout = .ok value) ∨
  ∃ content, (outcomes.run run).written = some content ∧
    parseJsonResponse runtime.parser content = .ok value

/-- The run has no value on standard output and writes no file, and the file that is left has one. -/
def Inherits (runtime : CodexRuntime) (outcomes : Outcomes) (run : Run) (left : Option String) :
    Prop :=
  (∃ stdout, (outcomes.run run).exit = .ok stdout ∧ parsedStdout runtime stdout = none) ∧
    (outcomes.run run).written = none ∧ outcomes.read run = none ∧
    ∃ content value, left = some content ∧ parseJsonResponse runtime.parser content = .ok value

/-- If a fallback was started, the last run is one and the value is from it. -/
def Fresh (runtime : CodexRuntime) (outcomes : Outcomes)
    (outcome : Except ErrorDetails Json × Disk) : Prop :=
  ∀ value, outcome.1 = .ok value → (∃ n, Run.stdin n ∈ outcome.2.runs) →
    ∃ n, outcome.2.runs.getLast? = some (.stdin n) ∧ FromRun runtime outcomes (.stdin n) value

theorem tryParseOutputMessage_eq_ok {message : String} :
    tryParseOutputMessage runtime message = .ok value ↔
      parseJsonResponse runtime.parser message = .ok value :=
  mapError_eq_ok

/-- The errors of parsing have no code. -/
theorem isMissing_of_unparsed {message : String} {error : ErrorDetails}
    (unparsed : tryParseOutputMessage runtime message = .error error) : isMissing error = false := by
  unfold tryParseOutputMessage at unparsed
  cases parsed : parseJsonResponse runtime.parser message with
  | ok value =>
      rw [parsed] at unparsed
      cases unparsed
  | error reason =>
      rw [parsed] at unparsed
      obtain rfl := Except.error.inj unparsed
      rfl

theorem parsedStdout_eq_some {stdout : String} : parsedStdout runtime stdout = some value ↔
    parseJsonResponse runtime.parser stdout = .ok value := by
  unfold parsedStdout
  by_cases blank : Js.trim stdout = ""
  · rw [if_pos blank]
    refine iff_of_false nofun fun parsed => ?_
    unfold parseJsonResponse at parsed
    dsimp only at parsed
    rw [if_pos blank] at parsed
    cases parsed
  · rw [if_neg blank, ← tryParseOutputMessage_eq_ok]
    constructor
    · exact eq_ok_of_toOption
    · intro parsed
      rw [parsed]
      rfl

/-- What is in the output file after a run that was given it. -/
def outputAfter (outcomes : Outcomes) (run : Run) (left : Option String) : Option String :=
  ((outcomes.run run).written).or left

theorem start_output : (disk.start outcomes run (some outputPath)).output =
    outputAfter outcomes run disk.output := by
  unfold Disk.start outputAfter
  cases (outcomes.run run).written with
  | none => rfl
  | some content => rfl

/-- Without a value on standard output the output file decides. -/
theorem fallbackAnswer_eq_ok {stdout : String} {output : Option String}
    (exit : (outcomes.run run).exit = .ok stdout) (silent : parsedStdout runtime stdout = none) :
    fallbackAnswer runtime outcomes run (some outputPath) output = .ok value ↔
      outcomes.read run = none ∧
        ∃ content, output = some content ∧ parseJsonResponse runtime.parser content = .ok value := by
  have refused : fallbackAnswer runtime outcomes run (some outputPath) output =
      readOutput runtime outcomes run output := by
    unfold fallbackAnswer
    rw [exit]
    dsimp only
    rw [silent]
    dsimp only
    cases readOutput runtime outcomes run output with
    | ok value => rfl
    | error error =>
        dsimp only
        rw [ite_self]
  rw [refused]
  unfold readOutput
  cases readable : outcomes.read run with
  | some error => exact iff_of_false nofun fun found => nomatch found.1
  | none =>
      cases output with
      | none => exact iff_of_false nofun fun found => nomatch found
      | some content =>
          dsimp only
          rw [tryParseOutputMessage_eq_ok]
          constructor
          · intro parsed
            exact ⟨rfl, content, rfl, parsed⟩
          · intro found
            obtain ⟨-, _, same, parsed⟩ := found
            rwa [Option.some.inj same]

theorem fallbackAnswer_of_inherits (inherits : Inherits runtime outcomes run left) :
    ∃ value, fallbackAnswer runtime outcomes run (some outputPath) (outputAfter outcomes run left) =
      .ok value := by
  obtain ⟨⟨stdout, exit, silent⟩, unwritten, readable, content, value, rfl, parsed⟩ := inherits
  have output : outputAfter outcomes run (some content) = some content := by
    unfold outputAfter
    rw [unwritten]
    rfl
  exact ⟨value, (fallbackAnswer_eq_ok exit silent).2 ⟨readable, content, output, parsed⟩⟩

/-- An answer of the fallback is its own unless it inherits one. -/
theorem fallbackAnswer_iff :
    (∀ value, fallbackAnswer runtime outcomes run (some outputPath) (outputAfter outcomes run left) =
        .ok value → FromRun runtime outcomes run value) ↔ ¬ Inherits runtime outcomes run left := by
  constructor
  · intro own inherits
    have answered : ∃ value, fallbackAnswer runtime outcomes run (some outputPath)
        (outputAfter outcomes run left) = .ok value := fallbackAnswer_of_inherits inherits
    obtain ⟨value, answer⟩ := answered
    obtain ⟨⟨stdout, exit, silent⟩, unwritten, -⟩ := inherits
    rcases own value answer with ⟨stdout', exit', parsed'⟩ | ⟨content', written', -⟩
    · obtain rfl := Except.ok.inj (exit.symm.trans exit')
      rw [parsedStdout_eq_some.2 parsed'] at silent
      cases silent
    · rw [unwritten] at written'
      cases written'
  · intro alone value answer
    cases exit : (outcomes.run run).exit with
    | error error =>
        unfold fallbackAnswer at answer
        rw [exit] at answer
        cases answer
    | ok stdout =>
        cases spoken : parsedStdout runtime stdout with
        | some said =>
            unfold fallbackAnswer at answer
            rw [exit] at answer
            dsimp only at answer
            rw [spoken] at answer
            obtain rfl := Except.ok.inj answer
            exact .inl ⟨stdout, exit, parsedStdout_eq_some.1 spoken⟩
        | none =>
            obtain ⟨readable, content, output, parsed⟩ := (fallbackAnswer_eq_ok exit spoken).1 answer
            cases written : (outcomes.run run).written with
            | some content' =>
                unfold outputAfter at output
                rw [written] at output
                obtain rfl := Option.some.inj output
                exact .inr ⟨content', written, parsed⟩
            | none =>
                unfold outputAfter at output
                rw [written] at output
                exact absurd ⟨⟨stdout, exit, spoken⟩, written, readable, content, value, output, parsed⟩
                  alone

/-- Without an output file a fallback answers what it says. -/
theorem fallbackAnswer_none {output : Option String}
    (answer : fallbackAnswer runtime outcomes run none output = .ok value) :
    FromRun runtime outcomes run value := by
  unfold fallbackAnswer at answer
  cases exit : (outcomes.run run).exit with
  | error error =>
      rw [exit] at answer
      cases answer
  | ok stdout =>
      rw [exit] at answer
      dsimp only at answer
      cases spoken : parsedStdout runtime stdout with
      | some said =>
          rw [spoken] at answer
          obtain rfl := Except.ok.inj answer
          exact .inl ⟨stdout, exit, parsedStdout_eq_some.1 spoken⟩
      | none =>
          rw [spoken] at answer
          cases answer

end Answers

/-! ## The disk -/

section Disk

variable {runtime : CodexRuntime} {outcomes : Outcomes} {run : Run} {disk : Disk}
  {outputPath stdout : String} {path : Option String} {value : Json} {error : ErrorDetails}
  {outcome : Except ErrorDetails Json × Disk}

@[simp] theorem start_runs : (disk.start outcomes run path).runs = disk.runs ++ [run] := rfl

@[simp] theorem start_tempDir : (disk.start outcomes run path).tempDir = disk.tempDir := rfl

@[simp] theorem start_output_none : (disk.start outcomes run none).output = disk.output := rfl

@[simp] theorem viaStdin_runs : (executeCodexCliViaStdin runtime outcomes path disk).2.runs =
    disk.runs ++ [.stdin disk.fallbacks] := rfl

@[simp] theorem viaStdin_tempDir :
    (executeCodexCliViaStdin runtime outcomes path disk).2.tempDir = disk.tempDir := rfl

theorem answerOrFallback_tempDir :
    (answerOrFallback runtime outcomes outputPath value disk).2.tempDir = disk.tempDir := by
  unfold answerOrFallback
  split
  · exact viaStdin_tempDir
  · rfl

theorem retryWithoutArtifact_tempDir :
    (retryWithoutArtifact runtime outcomes outputPath disk).2.tempDir = disk.tempDir := by
  unfold retryWithoutArtifact
  dsimp only
  split
  · rfl
  · split
    · rfl
    · exact answerOrFallback_tempDir

theorem onOutputError_tempDir :
    (onOutputError runtime outcomes outputPath stdout error disk).2.tempDir = disk.tempDir := by
  unfold onOutputError
  split
  · split
    · exact answerOrFallback_tempDir
    · exact retryWithoutArtifact_tempDir
  · rfl

theorem executeFileMode_tempDir :
    (executeFileMode runtime outcomes outputPath disk).2.tempDir = disk.tempDir := by
  unfold executeFileMode
  dsimp only
  split
  · rfl
  · split
    · exact answerOrFallback_tempDir
    · split
      · split
        · rfl
        · exact answerOrFallback_tempDir
      · rw [onOutputError_tempDir]
        split
        · rfl
        · exact answerOrFallback_tempDir

/-! ## Fresh answers -/

theorem fresh_of_error (failed : outcome.1 = .error error) : Fresh runtime outcomes outcome := by
  intro value answer
  rw [failed] at answer
  cases answer

theorem fresh_of_no_fallback (none : ∀ n, Run.stdin n ∉ outcome.2.runs) :
    Fresh runtime outcomes outcome := by
  intro value answer started
  obtain ⟨n, mem⟩ := started
  exact absurd mem (none n)

theorem fresh_mapError_iff {f : ErrorDetails → ErrorDetails} :
    Fresh runtime outcomes (outcome.1.mapError f, disk) ↔ Fresh runtime outcomes (outcome.1, disk) := by
  unfold Fresh
  simp only [mapError_eq_ok]

/-- Where the last run is a fallback, its answer has to be its own. -/
theorem fresh_of_last {n : Nat} (last : outcome.2.runs.getLast? = some (.stdin n)) :
    Fresh runtime outcomes outcome ↔
      ∀ value, outcome.1 = .ok value → FromRun runtime outcomes (.stdin n) value := by
  have started : ∃ n, Run.stdin n ∈ outcome.2.runs := ⟨n, List.mem_of_getLast? last⟩
  constructor
  · intro fresh value answer
    obtain ⟨m, same, own⟩ := fresh value answer started
    rw [last] at same
    cases same
    exact own
  · intro own value answer _
    exact ⟨n, last, own value answer⟩

theorem viaStdin_fresh_iff :
    Fresh runtime outcomes (executeCodexCliViaStdin runtime outcomes (some outputPath) disk) ↔
      ¬ Inherits runtime outcomes (.stdin disk.fallbacks) disk.output := by
  have last : (executeCodexCliViaStdin runtime outcomes (some outputPath) disk).2.runs.getLast? =
      some (.stdin disk.fallbacks) := by
    rw [viaStdin_runs, List.getLast?_concat]
  have own : (∀ value, (executeCodexCliViaStdin runtime outcomes (some outputPath) disk).1 =
      .ok value → FromRun runtime outcomes (.stdin disk.fallbacks) value) ↔
        ¬ Inherits runtime outcomes (.stdin disk.fallbacks) disk.output := by
    unfold executeCodexCliViaStdin
    dsimp only
    rw [start_output]
    exact fallbackAnswer_iff
  exact (fresh_of_last last).trans own

/-- A value is answered that is no brief's after a fallback, or a fallback inherits one. -/
def Tainted (runtime : CodexRuntime) (outcomes : Outcomes) (disk : Disk) (value : Json) : Prop :=
  if shouldRetryWithStdinFallback runtime.toLowerCase value then
    Inherits runtime outcomes (.stdin disk.fallbacks) disk.output
  else ∃ n, Run.stdin n ∈ disk.runs

theorem answerOrFallback_fresh_iff (last : ∀ n, disk.runs.getLast? ≠ some (.stdin n)) :
    Fresh runtime outcomes (answerOrFallback runtime outcomes outputPath value disk) ↔
      ¬ Tainted runtime outcomes disk value := by
  unfold answerOrFallback Tainted
  split
  · exact viaStdin_fresh_iff
  · constructor
    · intro fresh started
      obtain ⟨n, same, -⟩ := fresh value rfl started
      exact last n same
    · intro none
      exact fresh_of_no_fallback fun n mem => none ⟨n, mem⟩

/-- The retry has the value on its standard output. -/
def RetryAnswers (runtime : CodexRuntime) (outcomes : Outcomes) (value : Json) : Prop :=
  ∃ stdout, (outcomes.run .retry).exit = .ok stdout ∧
    parseJsonResponse runtime.parser stdout = .ok value

theorem fallbacks_start_retry : (disk.start outcomes .retry path).fallbacks = disk.fallbacks := by
  unfold Disk.fallbacks
  rw [start_runs, List.countP_append]
  rfl

theorem tainted_start_retry : Tainted runtime outcomes (disk.start outcomes .retry none) value ↔
    Tainted runtime outcomes disk value := by
  unfold Tainted
  rw [fallbacks_start_retry, start_output_none, start_runs]
  simp only [List.mem_append, List.mem_singleton, reduceCtorEq, or_false]

theorem retryWithoutArtifact_fresh_iff :
    Fresh runtime outcomes (retryWithoutArtifact runtime outcomes outputPath disk) ↔
      ∀ value, RetryAnswers runtime outcomes value → ¬ Tainted runtime outcomes disk value := by
  unfold retryWithoutArtifact
  dsimp only
  rw [fresh_mapError_iff]
  cases exit : (outcomes.run .retry).exit with
  | error error =>
      refine iff_of_true (fresh_of_error rfl) fun value answers => ?_
      obtain ⟨stdout, exit', -⟩ := answers
      rw [exit] at exit'
      cases exit'
  | ok stdout =>
      have answers : ∀ value, RetryAnswers runtime outcomes value ↔
          parseJsonResponse runtime.parser stdout = .ok value := by
        intro value
        unfold RetryAnswers
        rw [exit]
        constructor
        · intro found
          obtain ⟨_, same, parsed⟩ := found
          rwa [Except.ok.inj same]
        · intro parsed
          exact ⟨stdout, rfl, parsed⟩
      simp only [answers]
      cases parsed : tryParseOutputMessage runtime stdout with
      | error error =>
          refine iff_of_true (fresh_of_error rfl) fun value said => ?_
          rw [tryParseOutputMessage_eq_ok.2 said] at parsed
          cases parsed
      | ok value =>
          have said := tryParseOutputMessage_eq_ok.1 parsed
          have last : ∀ n, (disk.start outcomes .retry none).runs.getLast? ≠ some (.stdin n) := by
            intro n same
            rw [start_runs, List.getLast?_concat] at same
            cases same
          have fresh : Fresh runtime outcomes (answerOrFallback runtime outcomes outputPath value
              (disk.start outcomes .retry none)) ↔
                ¬ Tainted runtime outcomes (disk.start outcomes .retry none) value :=
            answerOrFallback_fresh_iff last
          rw [tainted_start_retry] at fresh
          refine fresh.trans ⟨fun untainted other same => ?_, fun untainted => untainted value said⟩
          rw [said] at same
          rwa [← Except.ok.inj same]

/-! ## The whole -/

/-- The fallback after an unusable output file fails with `ENOENT`. -/
def FallbackMissing (runtime : CodexRuntime) (outcomes : Outcomes) : Prop :=
  ∃ error, isMissing error = true ∧
    ((outcomes.run (.stdin 0)).exit = .error error ∨
      (∃ stdout, (outcomes.run (.stdin 0)).exit = .ok stdout ∧ parsedStdout runtime stdout = none) ∧
        outcomes.read (.stdin 0) = some error)

/-- The value is no brief. -/
def Unusable (runtime : CodexRuntime) (value : Json) : Prop :=
  shouldRetryWithStdinFallback runtime.toLowerCase value = true

/-- What the run with the prompt file says on standard output or leaves in the output file is no brief,
and a fallback inherits it; or that fallback fails with `ENOENT`, and then the retry answers, or a second
fallback inherits; or there is no output file, the retry says what is no brief, and a fallback
inherits. -/
def Stale (runtime : CodexRuntime) (outcomes : Outcomes) : Prop :=
  let left := (outcomes.run .file).written
  ∃ stdout, (outcomes.run .file).exit = .ok stdout ∧
    match parsedStdout runtime stdout with
    | some value => Unusable runtime value ∧ Inherits runtime outcomes (.stdin 0) left
    | none =>
        match readOutput runtime outcomes .file left with
        | .ok value => Unusable runtime value ∧
            (Inherits runtime outcomes (.stdin 0) left ∨
              FallbackMissing runtime outcomes ∧ ∃ value, RetryAnswers runtime outcomes value ∧
                (Unusable runtime value → Inherits runtime outcomes (.stdin 1)
                  (outputAfter outcomes (.stdin 0) left)))
        | .error error => isMissing error = true ∧ ∃ value, RetryAnswers runtime outcomes value ∧
            Unusable runtime value ∧ Inherits runtime outcomes (.stdin 0) left

/-- A value that is answered after a fallback was started is the fallback's, and no temporary directory
is left. -/
structure SoundOutcome (runtime : CodexRuntime) (outcomes : Outcomes)
    (outcome : Except ErrorDetails Json × Disk) : Prop where
  fresh : Fresh runtime outcomes outcome
  removed : outcome.2.tempDir = false

/-- A fallback that has an output file to read fails with `ENOENT` only where its run or the reading
does. -/
theorem fallbackMissing_iff (outputPath content : String) : FallbackMissing runtime outcomes ↔
    ∃ error, fallbackAnswer runtime outcomes (.stdin 0) (some outputPath)
      (outputAfter outcomes (.stdin 0) (some content)) = .error error ∧ isMissing error = true := by
  have kept : ∃ content', outputAfter outcomes (.stdin 0) (some content) = some content' := by
    unfold outputAfter
    cases (outcomes.run (.stdin 0)).written with
    | none => exact ⟨content, rfl⟩
    | some content' => exact ⟨content', rfl⟩
  obtain ⟨content', kept⟩ := kept
  rw [kept]
  unfold FallbackMissing fallbackAnswer
  cases exit : (outcomes.run (.stdin 0)).exit with
  | error failure =>
      dsimp only
      simp only [Except.error.injEq, reduceCtorEq, false_and, exists_false, or_false, and_comm]
  | ok stdout =>
      dsimp only
      simp only [reduceCtorEq, false_or, Except.ok.injEq, exists_eq_left']
      cases parsedStdout runtime stdout with
      | some value => simp
      | none =>
          unfold readOutput
          cases outcomes.read (.stdin 0) with
          | some failure =>
              simp only [ite_self, true_and, Option.some.injEq, Except.error.injEq, and_comm]
          | none =>
              refine iff_of_false (fun missing => ?_) fun missing => ?_
              · obtain ⟨error, -, -, same⟩ := missing
                cases same
              · obtain ⟨error, refused, missing⟩ := missing
                dsimp only at refused
                cases parsed : tryParseOutputMessage runtime content' with
                | ok value =>
                    rw [parsed] at refused
                    cases refused
                | error unparsed =>
                    rw [parsed] at refused
                    dsimp only at refused
                    rw [ite_self] at refused
                    obtain rfl := Except.error.inj refused
                    rw [isMissing_of_unparsed parsed] at missing
                    cases missing

/-- The run with the prompt file as started on an empty disk. -/
def fileDisk (outcomes : Outcomes) (outputPath : String) (tempDir : Bool) : Disk :=
  ({ tempDir } : Disk).start outcomes .file (some outputPath)

theorem fileDisk_output {tempDir : Bool} :
    (fileDisk outcomes outputPath tempDir).output = (outcomes.run .file).written := by
  unfold fileDisk
  rw [start_output]
  unfold outputAfter
  exact Option.or_none

theorem fileDisk_last {tempDir : Bool} (n : Nat) :
    (fileDisk outcomes outputPath tempDir).runs.getLast? ≠ some (.stdin n) := by
  intro same
  have runs : (fileDisk outcomes outputPath tempDir).runs = [.file] := rfl
  rw [runs] at same
  cases same

theorem tainted_fileDisk_iff {tempDir : Bool} :
    Tainted runtime outcomes (fileDisk outcomes outputPath tempDir) value ↔
      Unusable runtime value ∧ Inherits runtime outcomes (.stdin 0) (outcomes.run .file).written := by
  have runs : (fileDisk outcomes outputPath tempDir).runs = [.file] := rfl
  have zero : (fileDisk outcomes outputPath tempDir).fallbacks = 0 := rfl
  unfold Tainted Unusable
  rw [fileDisk_output, runs, zero]
  split
  · rename_i unusable
    rw [and_iff_right unusable]
  · rename_i usable
    refine iff_of_false (fun started => ?_) fun both => usable both.1
    obtain ⟨n, mem⟩ := started
    cases List.mem_singleton.1 mem

/-- After a fallback only an own answer of a second one would do. -/
theorem tainted_viaStdin_iff {tempDir : Bool} :
    Tainted runtime outcomes (executeCodexCliViaStdin runtime outcomes (some outputPath)
        (fileDisk outcomes outputPath tempDir)).2 value ↔
      (Unusable runtime value → Inherits runtime outcomes (.stdin 1)
        (outputAfter outcomes (.stdin 0) (outcomes.run .file).written)) := by
  have output : (executeCodexCliViaStdin runtime outcomes (some outputPath)
      (fileDisk outcomes outputPath tempDir)).2.output =
        outputAfter outcomes (.stdin 0) (outcomes.run .file).written := by
    have before : (fileDisk outcomes outputPath tempDir).output = (outcomes.run .file).written :=
      fileDisk_output
    rw [← before]
    exact start_output
  have one : (executeCodexCliViaStdin runtime outcomes (some outputPath)
      (fileDisk outcomes outputPath tempDir)).2.fallbacks = 1 := rfl
  unfold Tainted Unusable
  rw [output, one]
  split
  · rename_i unusable
    exact ⟨fun inherits _ => inherits, fun inherits => inherits unusable⟩
  · rename_i usable
    refine iff_of_true ⟨0, ?_⟩ fun unusable => absurd unusable usable
    rw [viaStdin_runs]
    exact List.mem_append_right _ (List.mem_singleton.2 rfl)

theorem written_of_readOutput {output : Option String}
    (found : readOutput runtime outcomes run output = .ok value) :
    ∃ content, output = some content := by
  unfold readOutput at found
  cases readable : outcomes.read run with
  | some error =>
      rw [readable] at found
      cases found
  | none =>
      rw [readable] at found
      cases output with
      | none => cases found
      | some content => exact ⟨content, rfl⟩

/-- The errors of a fallback after an unusable output file. -/
theorem afterFallback_fresh_iff {tempDir : Bool} {content : String}
    (silent : parsedStdout runtime stdout = none)
    (written : (outcomes.run .file).written = some content)
    (refused : fallbackAnswer runtime outcomes (.stdin 0) (some outputPath)
      (outputAfter outcomes (.stdin 0) (some content)) = .error error) :
    Fresh runtime outcomes (onOutputError runtime outcomes outputPath stdout error
        (executeCodexCliViaStdin runtime outcomes (some outputPath)
          (fileDisk outcomes outputPath tempDir)).2) ↔
      ¬ (FallbackMissing runtime outcomes ∧ ∃ value, RetryAnswers runtime outcomes value ∧
          (Unusable runtime value → Inherits runtime outcomes (.stdin 1)
            (outputAfter outcomes (.stdin 0) (some content)))) := by
  have missing : FallbackMissing runtime outcomes ↔ isMissing error = true := by
    rw [fallbackMissing_iff outputPath content, refused]
    simp only [Except.error.injEq, exists_eq_left']
  unfold onOutputError
  rw [missing, silent]
  by_cases gone : isMissing error = true
  · rw [if_pos gone, and_iff_right gone]
    dsimp only
    rw [retryWithoutArtifact_fresh_iff]
    simp only [tainted_viaStdin_iff, written, not_exists, not_and]
  · rw [if_neg gone]
    exact iff_of_true (fresh_of_error rfl) fun both => gone both.1

theorem executeFileMode_of_stdout {tempDir : Bool} (exit : (outcomes.run .file).exit = .ok stdout)
    (spoken : parsedStdout runtime stdout = some value) :
    executeFileMode runtime outcomes outputPath { tempDir } =
      answerOrFallback runtime outcomes outputPath value (fileDisk outcomes outputPath tempDir) := by
  unfold executeFileMode
  dsimp only
  rw [exit]
  dsimp only
  rw [spoken]
  rfl

theorem executeFileMode_of_output {tempDir : Bool} (exit : (outcomes.run .file).exit = .ok stdout)
    (silent : parsedStdout runtime stdout = none)
    (found : readOutput runtime outcomes .file (outcomes.run .file).written = .ok value) :
    executeFileMode runtime outcomes outputPath { tempDir } =
      match (answerOrFallback runtime outcomes outputPath value
          (fileDisk outcomes outputPath tempDir)).1 with
      | .ok answer => (.ok answer, (answerOrFallback runtime outcomes outputPath value
          (fileDisk outcomes outputPath tempDir)).2)
      | .error error => onOutputError runtime outcomes outputPath stdout error
          (answerOrFallback runtime outcomes outputPath value
            (fileDisk outcomes outputPath tempDir)).2 := by
  have read : readOutput runtime outcomes .file
      (Disk.start outcomes { tempDir } .file (some outputPath)).output = .ok value :=
    (congrArg _ fileDisk_output).trans found
  unfold executeFileMode
  dsimp only
  rw [exit]
  dsimp only
  rw [silent]
  dsimp only
  rw [read]
  rfl

theorem executeFileMode_of_output_error {tempDir : Bool}
    (exit : (outcomes.run .file).exit = .ok stdout) (silent : parsedStdout runtime stdout = none)
    (found : readOutput runtime outcomes .file (outcomes.run .file).written = .error error) :
    executeFileMode runtime outcomes outputPath { tempDir } =
      onOutputError runtime outcomes outputPath stdout error (fileDisk outcomes outputPath tempDir) := by
  have read : readOutput runtime outcomes .file
      (Disk.start outcomes { tempDir } .file (some outputPath)).output = .error error :=
    (congrArg _ fileDisk_output).trans found
  unfold executeFileMode
  dsimp only
  rw [exit]
  dsimp only
  rw [silent]
  dsimp only
  rw [read]
  rfl

theorem executeFileMode_fresh_iff {tempDir : Bool} :
    Fresh runtime outcomes (executeFileMode runtime outcomes outputPath { tempDir }) ↔
      ¬ Stale runtime outcomes := by
  unfold Stale
  cases exit : (outcomes.run .file).exit with
  | error error =>
      unfold executeFileMode
      rw [exit]
      refine iff_of_true (fresh_of_error rfl) fun stale => ?_
      obtain ⟨stdout, same, -⟩ := stale
      cases same
  | ok stdout =>
      simp only [Except.ok.injEq, exists_eq_left']
      cases spoken : parsedStdout runtime stdout with
      | some value =>
          rw [executeFileMode_of_stdout exit spoken, answerOrFallback_fresh_iff fileDisk_last,
            tainted_fileDisk_iff]
      | none =>
          dsimp only
          cases found : readOutput runtime outcomes .file (outcomes.run .file).written with
          | error error =>
              rw [executeFileMode_of_output_error exit spoken found]
              dsimp only
              unfold onOutputError
              by_cases gone : isMissing error = true
              · rw [if_pos gone, spoken, and_iff_right gone]
                dsimp only
                rw [retryWithoutArtifact_fresh_iff]
                simp only [tainted_fileDisk_iff, not_exists, not_and]
              · rw [if_neg gone]
                exact iff_of_true (fresh_of_error rfl) fun both => gone both.1
          | ok value =>
              rw [executeFileMode_of_output exit spoken found]
              dsimp only
              by_cases unusable : Unusable runtime value
              · rw [and_iff_right unusable]
                obtain ⟨content, written⟩ := written_of_readOutput found
                have asked : answerOrFallback runtime outcomes outputPath value
                    (fileDisk outcomes outputPath tempDir) =
                      executeCodexCliViaStdin runtime outcomes (some outputPath)
                        (fileDisk outcomes outputPath tempDir) := if_pos unusable
                rw [asked]
                have same : (executeCodexCliViaStdin runtime outcomes (some outputPath)
                    (fileDisk outcomes outputPath tempDir)).1 =
                      fallbackAnswer runtime outcomes (.stdin 0) (some outputPath)
                        (outputAfter outcomes (.stdin 0) (some content)) := by
                  unfold executeCodexCliViaStdin
                  dsimp only
                  rw [start_output, fileDisk_output, written]
                  rfl
                have own : Fresh runtime outcomes (executeCodexCliViaStdin runtime outcomes
                    (some outputPath) (fileDisk outcomes outputPath tempDir)) ↔
                      ¬ Inherits runtime outcomes (.stdin 0) (outcomes.run .file).written := by
                  rw [viaStdin_fresh_iff, fileDisk_output]
                  rfl
                rw [written] at own ⊢
                cases answer : fallbackAnswer runtime outcomes (.stdin 0) (some outputPath)
                    (outputAfter outcomes (.stdin 0) (some content)) with
                | ok value =>
                    have present : ¬ FallbackMissing runtime outcomes := by
                      rw [fallbackMissing_iff outputPath content, answer]
                      intro missing
                      obtain ⟨_, refused, -⟩ := missing
                      cases refused
                    rw [or_iff_left fun both => present both.1, ← own]
                    rw [answer] at same
                    have whole : executeCodexCliViaStdin runtime outcomes (some outputPath)
                        (fileDisk outcomes outputPath tempDir) = (.ok value,
                          (executeCodexCliViaStdin runtime outcomes (some outputPath)
                            (fileDisk outcomes outputPath tempDir)).2) := Prod.ext same rfl
                    rw [whole]
                | error error =>
                    have alone : ¬ Inherits runtime outcomes (.stdin 0) (some content) := by
                      intro inherits
                      obtain ⟨_, answered⟩ := @fallbackAnswer_of_inherits _ _ _ _ outputPath inherits
                      rw [answer] at answered
                      cases answered
                    rw [or_iff_right alone]
                    rw [answer] at same
                    rw [same]
                    exact afterFallback_fresh_iff spoken written answer
              · have kept : answerOrFallback runtime outcomes outputPath value
                    (fileDisk outcomes outputPath tempDir) =
                      (.ok value, fileDisk outcomes outputPath tempDir) := if_neg unusable
                rw [kept]
                refine iff_of_true (fresh_of_no_fallback fun n mem => ?_) fun both => unusable both.1
                cases List.mem_singleton.1 mem

/-- Answers are fresh and the directory is removed unless it is made and the prompt is not written, or the
removal fails, or an answer is stale. -/
theorem executeCodexCli_sound_iff (runtime : CodexRuntime) (outcomes : Outcomes) :
    SoundOutcome runtime outcomes (executeCodexCli runtime outcomes) ↔
      ∀ tempDir, createCodexTempDir outcomes = .ok tempDir →
        outcomes.writePrompt = .ok () ∧ outcomes.rm = .ok () ∧ ¬ Stale runtime outcomes := by
  have only : ∀ disk : Disk, Fresh runtime outcomes (stdinOnly runtime outcomes disk) := by
    intro disk
    unfold stdinOnly
    dsimp only
    rw [fresh_mapError_iff]
    have last : (executeCodexCliViaStdin runtime outcomes none disk).2.runs.getLast? =
        some (.stdin disk.fallbacks) := by
      rw [viaStdin_runs, List.getLast?_concat]
    refine (fresh_of_last last).2 fun value answer => ?_
    exact @fallbackAnswer_none runtime outcomes (.stdin disk.fallbacks) value
      (disk.start outcomes (.stdin disk.fallbacks) none).output answer
  unfold executeCodexCli
  cases createCodexTempDir outcomes with
  | error error => exact iff_of_true ⟨only {}, rfl⟩ nofun
  | ok tempDir =>
      dsimp only
      cases outcomes.writePrompt with
      | error error =>
          refine iff_of_false (fun sound => ?_) fun holds => ?_
          · have left : (stdinOnly runtime outcomes { tempDir := true }).2.tempDir = true := rfl
            rw [sound.removed] at left
            cases left
          · cases (holds tempDir rfl).1
      | ok written =>
          dsimp only
          cases outcomes.rm with
          | error error =>
              refine iff_of_false (fun sound => ?_) fun holds => ?_
              · have left := sound.removed
                dsimp only at left
                rw [executeFileMode_tempDir] at left
                cases left
              · cases (holds tempDir rfl).2.1
          | ok removed =>
              have fresh : Fresh runtime outcomes (executeFileMode runtime outcomes
                  (tempDir ++ "/last-message.txt") { tempDir := true }) ↔ ¬ Stale runtime outcomes :=
                executeFileMode_fresh_iff
              rw [← fresh]
              unfold Fresh
              constructor
              · intro sound path made
                have answers := sound.fresh
                unfold Fresh at answers
                dsimp only at answers
                simp only [mapError_eq_ok] at answers
                cases made
                exact ⟨rfl, rfl, answers⟩
              · intro holds
                obtain ⟨-, -, answers⟩ := holds tempDir rfl
                refine ⟨?_, rfl⟩
                unfold Fresh
                dsimp only
                simp only [mapError_eq_ok]
                exact answers

end Disk

/-! ## A file that is left -/

/-- `JSON.parse` on the text of `null`. -/
def nullParser : JsonParser where
  parse text := if text = "null" then .ok .null else .error "Unexpected end of JSON input"
  text_of_ok text value parsed := by
    split at parsed
    · rename_i same
      rw [same]
      exact { starts := ⟨'n', _, rfl, by decide⟩, stops := ⟨['n', 'u', 'l'], 'l', rfl, by decide⟩ }
    · cases parsed

def nullRuntime : CodexRuntime where
  parser := nullParser
  toLowerCase := id

/-- The run with the prompt file writes what is no brief; the fallback exits with 0 and writes nothing. -/
def silentFallback : Outcomes where
  mkdtemp _ := .ok "/tmp/brief-codex-cli-1"
  writePrompt := .ok ()
  run run := { exit := .ok "", written := if run = .file then some "null" else none }
  read _ := none
  rm := .ok ()

/-- What was refused of the first run is answered after the fallback. -/
theorem left_file_answered :
    executeCodexCli nullRuntime silentFallback =
        (.ok .null, { runs := [.file, .stdin 0], output := some "null", tempDir := false }) ∧
      ¬ FromRun nullRuntime silentFallback (.stdin 0) .null ∧
      ¬ SoundOutcome nullRuntime silentFallback (executeCodexCli nullRuntime silentFallback) := by
  have answered : executeCodexCli nullRuntime silentFallback =
      (.ok .null, { runs := [.file, .stdin 0], output := some "null", tempDir := false }) := rfl
  have other : ∀ n, ¬ FromRun nullRuntime silentFallback (.stdin n) .null := by
    intro n own
    rcases own with ⟨stdout, exit, parsed⟩ | ⟨content, written, -⟩
    · obtain rfl := Except.ok.inj exit
      cases parsed
    · cases written
  refine ⟨answered, other 0, fun sound => ?_⟩
  have fresh := sound.fresh
  rw [answered] at fresh
  obtain ⟨n, -, own⟩ := fresh .null rfl ⟨0, by decide⟩
  exact other n own

end RisingIntelligence.Brief
