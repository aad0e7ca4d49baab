import GoldenRun.CommandLine.Choices
import GoldenRun.LogFilter
import GoldenRun.Reporter.Form
import GoldenRun.Run.Harness

/-!
# The program

The program reads its command line, turns it into a configuration, carries out the harness and ends with
an exit code:

* 0 when every case passed, or when failed cases are not to count, or when the user only asked for
  something;
* 1 when a case failed, silently, or when the run could not go on, with a complaint;
* 2 when the command line was refused.

Nothing is run before the command line and the configuration are accepted.
-/

namespace GoldenRun

open CommandLine (Choices Environment Refusal ReportFormat)

namespace Program

/-! ## 1. The end of a run -/

/-- Whether the program succeeds with a report. Failing tests were told already. -/
def concludeReport (exitZero : Bool) (report : Report) : Except Complaint Unit :=
  if report.allPassed || exitZero then .ok () else .error { message := "" }

/-- Whether the program succeeds with the end of a run. -/
def conclude (exitZero : Bool) : Except RunError Report → Except Complaint Unit
  | .ok report => concludeReport exitZero report
  | .error e => .error { message := "Error: " ++ e.message }

/-- The exit code. -/
def exitCode : Except Complaint Unit → Int
  | .ok () => 0
  | .error complaint => complaint.exitCode

/-- What is said on the error stream at the end. -/
def lastWord : Except Complaint Unit → String
  | .ok () => ""
  | .error complaint => if complaint.message.isEmpty then "" else complaint.message ++ "\n"

/-! ## 2. A run -/

/-- What became of a run of the program. -/
structure Performance (σ ρ : Type) where
  conclusion : Except Complaint Unit
  steps : List Step
  session : Session σ ρ

/-- The run that choices ask for, if they make a configuration. -/
def execute {σ ρ : Type} (choices : Choices) (output : OutputMode)
    (runner : Option Duration → Runner σ) (reporter : Reporter ρ) (session : Session σ ρ) :
    Performance σ ρ :=
  match choices.toConfig with
  | .error complaint => ⟨.error complaint, [], session⟩
  | .ok config =>
    let harness : Harness := { config, output }
    let progress := harness.execute.perform (runner config.timeout) reporter session
    ⟨conclude choices.exitZero progress.outcome, progress.steps, progress.session⟩

/-- The form of the report. -/
def form (choices : Choices) (color : Bool) : Form :=
  match choices.format with
  | .console => .transcript { color := color && !choices.noColor, verbose := choices.verbose }
  | .json => .document

/-- A transcript shares the console with the commands; a document does not. -/
def outputMode : ReportFormat → OutputMode
  | .console => .inherit
  | .json => .capture

/-! ## 3. The streams -/

/-- What comes to standard output in a run: the words of the scribe and those of the commands, in the
    order in which they are written. -/
def outputOf {α : Type} (scribe : Scribe α) : α → List Step → Bytes
  | _, [] => []
  | state, .callback callback :: steps =>
    let (emissions, next) := scribe callback state
    written emissions ++ outputOf scribe next steps
  | state, .command _ reply :: steps => reply.echo.out ++ outputOf scribe state steps
  | state, .event _ :: steps => outputOf scribe state steps

/-- What commands write to standard error in a run. -/
def errorsOf (steps : List Step) : Bytes :=
  steps.flatMap fun step => match step with
    | .command _ reply => reply.echo.err
    | _ => []

/-! ## 4. From the command line to the exit code -/

/-- What the program is given. -/
structure Call where
  arguments : List Bytes
  environment : Environment
  /-- What the user wants to see of the log. -/
  logFilter : Option Bytes := none
  /-- Standard output leads to a terminal. -/
  terminal : Bool := false

/-- What the program leaves. -/
structure Result where
  exitCode : Int
  stdout : Bytes := []
  stderr : Bytes := []
  log : List Event := []
  files : FileTree
  /-- Why there was no run, if the command line led to none. -/
  refusal? : Option Refusal := none

/-- Colour is for terminals, and not wanted where the environment says so. -/
def Call.allowsColor (call : Call) : Bool :=
  call.terminal && (call.environment "NO_COLOR").isNone

/-- The answer to a command line that leads to no run. -/
def refused (refusal : Refusal) (files : FileTree) : Result :=
  let line := utf8 (refusal.headline ++ "\n")
  let result : Result := { exitCode := refusal.exitCode, files, refusal? := some refusal }
  if refusal.isFault then { result with stderr := line } else { result with stdout := line }

/-- The program, with a runner for commands and the file tree that they work on. -/
def run {σ : Type} (call : Call) (runner : Option Duration → Runner σ) (world : World σ) : Result :=
  match Choices.read call.arguments call.environment with
  | .error refusal => refused refusal world.files
  | .ok choices =>
    let form := form choices call.allowsColor
    let performance := execute choices (outputMode choices.format) runner form.reporter
      { world, reporter := ([], {}) }
    let steps := performance.steps
    let logFilter := LogFilter.choose call.logFilter choices.verbose
    { exitCode := exitCode performance.conclusion
      stdout := outputOf form.scribe [] steps
      stderr := errorsOf steps ++ utf8 (lastWord performance.conclusion)
      log := (steps.flatMap Step.events).filter logFilter.admits
      files := performance.session.world.files }

end Program

end GoldenRun
