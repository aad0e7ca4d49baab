import GoldenRun.Machine.Launch.Basic
import GoldenRun.Machine.Shell.Command.Signal
import GoldenRun.Machine.Utility.TimeSpan

/-!
# Programs under other conditions

Programs that start one other program under conditions of their own: with a limit of time (`timeout`), with less
of the processor (`nice`), without an end at the end of a session (`nohup`), in a session of its own (`setsid`), or
with other buffers (`stdbuf`). Only the first makes a difference to what the program does.
-/

namespace GoldenRun.Machine.Launch

open Shell

/-- The end of a program that could not start another one. -/
def unlaunched (name what : String) (cause : Errno) : Action Ending := do
  tell (name ++ ": " ++ what ++ ": " ++ cause.message)
  return .exited (if cause = .notFound then 127 else 126)

/-- Start the program that operands name; a refusal is told with some words in front of the name. -/
def launchOperands (launcher : Launcher) (name before : String) (operands : List String) : Action Ending := do
  let program := operands.headD ""
  match ← launch launcher program (operands.drop 1) with
  | .ok ending => return ending
  | .error cause => unlaunched name (before ++ quotedName program) cause

/-! ## 1. Time -/

/-- How long a program may run, and what ends it then. -/
structure TimeLimit where
  signal : Nat := 15
  /-- How long after the signal the program is killed. -/
  grace : Option Nat := none
  /-- The exit code is that of the program. -/
  keepsStatus : Bool := false
  /-- The signal goes to the program alone. -/
  isAlone : Bool := false
  isTold : Bool := false
  deriving DecidableEq, Repr

/-- A span of time that may be without an end. -/
def spanOf (text : String) : Except Trouble (Option Nat) :=
  match readTime? text with
  | some (some 0) => .ok none
  | some span => .ok span
  | none => Trouble.misuse ("invalid time interval " ++ quotedWord text)

/-- The limit with one more option. -/
def TimeLimit.withOption (limit : TimeLimit) : String × String → Except Trouble TimeLimit
  | ("s", text) =>
    match signal? (((after? "SIG" text).getD text)) with
    | some signal => .ok { limit with signal }
    | none => Trouble.misuse (quotedWord text ++ ": invalid signal")
  | ("k", text) => do return { limit with grace := ← spanOf text }
  | ("preserve-status", _) => .ok { limit with keepsStatus := true }
  | ("foreground", _) => .ok { limit with isAlone := true }
  | ("v", _) => .ok { limit with isTold := true }
  | _ => .ok limit

/-- When a program is ended that began at a moment, and by which signal. -/
def TimeLimit.ending? (limit : TimeLimit) (start : Nat) (span : Option Nat) : Option (Nat × Nat) :=
  match span, limit.grace with
  | none, _ => none
  | some span, grace =>
    if isHarmless limit.signal then grace.map fun grace => (start + span + grace, 9)
    else some (start + span, limit.signal)

/-- A program that may only run for some time. -/
def runLimited (launcher : Launcher) (name : String) (args : List String) : Action Ending := do
  let arguments := readOptions
    [valued 'k' ["kill-after"], valued 's' ["signal"], flag 'v' ["verbose"], long "preserve-status",
      long "foreground"] false args
  withPlan name 125 arguments ({} : TimeLimit) TimeLimit.withOption fun limit => do
    match arguments.operands with
    | [] | [_] => do
      tell ("Try '" ++ name ++ " --help' for more information.")
      return .exited 125
    | time :: operands =>
      match spanOf time with
      | .error trouble => giveUp name 125 trouble
      | .ok span => do
        let before ← getSystem
        let end? := limit.ending? before.now span
        let isOurs := end?.any fun (moment, _) => before.deadline.all (moment < ·)
        modifySystem fun system =>
          { system with deadline := if isOurs then end?.map Prod.fst else system.deadline }
        let ending ← launchOperands launcher name "failed to run command " operands
        modifySystem fun system => { system with deadline := before.deadline }
        let now := (← getSystem).now
        let isLate := span.any fun span => before.now + span < now
        let told (signal : Nat) : Action Unit := do
          if limit.isTold then
            tell (name ++ ": sending signal " ++ signalName signal ++ " to command " ++
              quotedName (operands.headD ""))
        match ending, isOurs, end? with
        | .running, true, some (moment, signal) => do
          modifySystem fun system => { system with now := max system.now moment }
          told limit.signal
          if signal != limit.signal then told signal
          if signal = 9 && !limit.isAlone then return .killed 9
          else return .exited (if limit.keepsStatus || signal = 9 then 128 + signal else 124)
        | ending, _, _ =>
          return if isLate && ending != .running then
              .exited (if limit.keepsStatus then ending.status else 124)
            else ending

/-! ## 2. Sessions and buffers -/

/-- A program that goes on when its session ends. -/
def runUnhung (launcher : Launcher) (name : String) (args : List String) : Action Ending := do
  let arguments := readOptions [] false args
  withPlan name 125 arguments () (fun _ _ => .ok ()) fun _ => do
    if arguments.operands.isEmpty then misused name 125 "missing operand"
    else launchOperands launcher name "failed to run command " arguments.operands

/-- A program in a session of its own. -/
def runApart (launcher : Launcher) (name : String) (args : List String) : Action Ending := do
  let arguments := readOptions [flag 'c' ["ctty"], flag 'f' ["fork"], flag 'w' ["wait"]] false args
  withPlan name 1 arguments () (fun _ _ => .ok ()) fun _ => do
    let program := arguments.operands.headD ""
    if arguments.operands.isEmpty then misused name 1 "no command specified"
    else
      match ← launch launcher program (arguments.operands.drop 1) with
      | .ok ending => return ending
      | .error cause => unlaunched name ("failed to execute " ++ program) cause

/-- The way in which a stream of the given name is to be kept in a buffer can be understood. -/
def bufferMode (option : String × String) : Except Trouble Unit :=
  let (key, text) := option
  if text = "L" then
    if key = "i" then Trouble.misuse "line buffering stdin is meaningless" else .ok ()
  else
    match Size.ofText? false "EGkKMPQRTYZ0" text with
    | some _ => .ok ()
    | none => Trouble.because ("invalid mode " ++ quotedWord text)

/-- A program whose streams are kept in other buffers. -/
def runBuffered (launcher : Launcher) (name : String) (args : List String) : Action Ending := do
  let arguments := readOptions [valued 'i' ["input"], valued 'o' ["output"], valued 'e' ["error"]] false args
  withPlan name 125 arguments () (fun _ => bufferMode) fun _ => do
    if arguments.operands.isEmpty then misused name 125 "missing operand"
    else if arguments.options.isEmpty then misused name 125 "you must specify a buffering mode option"
    else launchOperands launcher name "failed to run command " arguments.operands

/-! ## 3. The processor -/

/-- How nice a program may be at most. -/
def maxNiceness : Int := 19

/-- An adjustment of niceness; one without a sign of its own is one too. -/
def adjustment? (text : String) : Option Int :=
  match text.toList with
  | '-' :: digits => (decimal? (String.ofList digits)).map fun n => -(n : Int)
  | '+' :: digits => (decimal? (String.ofList digits)).map fun n => (n : Int)
  | digits => (decimal? (String.ofList digits)).map fun n => (n : Int)

/-- The options of `nice` with those of the older kind, which are numbers behind a sign, in the newer form.
    `fuel` covers the arguments. -/
def niceArguments : (fuel : Nat) → List String → List String
  | 0, args => args
  | _, [] => []
  | fuel + 1, arg :: rest =>
    match arg.toList with
    | '-' :: c :: cs =>
      let digits := if c = '-' || c = '+' then cs.head? else some c
      if digits.any Char.isDigit then "-n" :: String.ofList (c :: cs) :: niceArguments fuel rest
      else if arg = "-n" || arg = "--adjustment" then
        arg :: rest.take 1 ++ niceArguments fuel (rest.drop 1)
      else if arg = "--" then arg :: rest
      else arg :: niceArguments fuel rest
    | _ => arg :: rest

/-- A program that leaves more of the processor to others, or how nice this one is. -/
def runNicely (launcher : Launcher) (name : String) (args : List String) : Action Ending := do
  let arguments := readOptions [valued 'n' ["adjustment"]] false (niceArguments args.length args)
  withPlan name 125 arguments () (fun _ _ => .ok ()) fun _ => do
    let shell ← getShell
    let given := (arguments.values "n").getLast?
    match given, given.map adjustment?, arguments.operands with
    | some text, some none, _ => do
      tell (name ++ ": invalid adjustment " ++ quotedWord text)
      return .exited 125
    | some _, _, [] => misused name 125 "a command must be given with an adjustment"
    | none, _, [] => do
      say (toString shell.niceness ++ "\n")
      return .exited 0
    | _, adjustment, operands => do
      let niceness := max (-20) (min maxNiceness (shell.niceness + (adjustment.bind (·)).getD 10))
      modifyShell fun shell => { shell with niceness }
      launchOperands launcher name "" operands

end GoldenRun.Machine.Launch
