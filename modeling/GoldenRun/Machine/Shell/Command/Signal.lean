import GoldenRun.Machine.Shell.Command.Basic

/-!
# Signals and jobs

* `kill`, `trap`: sending signals, and what a shell does when one comes;
* `wait`, `jobs`: processes that were not waited for.
-/

namespace GoldenRun.Machine.Shell

/-! ## 1. Signals -/

/-- Names of signals. The end of a shell counts as one. -/
def signalNames : List (String × Nat) :=
  [("EXIT", 0), ("HUP", 1), ("INT", 2), ("QUIT", 3), ("ILL", 4), ("TRAP", 5), ("ABRT", 6), ("BUS", 7),
    ("FPE", 8), ("KILL", 9), ("USR1", 10), ("SEGV", 11), ("USR2", 12), ("PIPE", 13), ("ALRM", 14),
    ("TERM", 15), ("CHLD", 17), ("CONT", 18), ("STOP", 19), ("TSTP", 20), ("TTIN", 21), ("TTOU", 22),
    ("URG", 23), ("XCPU", 24), ("XFSZ", 25), ("VTALRM", 26), ("PROF", 27), ("WINCH", 28), ("IO", 29),
    ("PWR", 30), ("SYS", 31), ("RTMIN", 34), ("RTMAX", 64)]

/-- The largest number of a signal. -/
def maxSignal : Nat := 64

/-- The name of a signal. Those between the first and the last real-time signal are counted from the
    nearer one. -/
def signalName (signal : Nat) : String :=
  match signalNames.find? (·.2 == signal) with
  | some (name, _) => name
  | none =>
    if 34 < signal && signal ≤ 49 then "RTMIN+" ++ toString (signal - 34)
    else if 49 < signal && signal < maxSignal then "RTMAX-" ++ toString (maxSignal - signal)
    else toString signal

/-- The number of a signal, given by number or by name in letters of any case. -/
def signal? (text : String) : Option Nat :=
  match decimal? text with
  | some n => if n ≤ maxSignal then some n else none
  | none =>
    let name := String.ofList (text.toList.map Char.toUpper)
    (List.range (maxSignal + 1)).find? (signalName · == name)

/-- What is said about a program that a signal ended. -/
def signalWords : Nat → String
  | 1 => "Hangup"
  | 2 => "Interrupt"
  | 3 => "Quit"
  | 4 => "Illegal instruction"
  | 5 => "Trace/breakpoint trap"
  | 6 => "Aborted"
  | 7 => "Bus error"
  | 8 => "Floating point exception"
  | 9 => "Killed"
  | 10 => "User defined signal 1"
  | 11 => "Segmentation fault"
  | 12 => "User defined signal 2"
  | 13 => "Broken pipe"
  | 14 => "Alarm clock"
  | 15 => "Terminated"
  | 24 => "CPU time limit exceeded"
  | 25 => "File size limit exceeded"
  | 26 => "Virtual timer expired"
  | 27 => "Profiling timer expired"
  | 29 => "I/O possible"
  | 30 => "Power failure"
  | 31 => "Bad system call"
  | n => "Signal " ++ toString n

/-- Say that a signal ended a program. Nothing is said about an interrupt and a broken pipe. -/
def announce : Ending → Action Unit
  | .killed signal => unless signal = 2 || signal = 13 do tell (signalWords signal)
  | _ => return

/-- Signals that a process does not heed. -/
def isHarmless (signal : Nat) : Bool :=
  [0, 17, 18, 23, 28].contains signal

/-- Signals that stop a process without ending it. -/
def isStopping (signal : Nat) : Bool :=
  [19, 20, 21, 22].contains signal

/-- Signals that no process can deal with itself. -/
def isCertain (signal : Nat) : Bool :=
  signal = 9 || signal = 19

/-! ## 2. Jobs -/

/-- The job that a name with a percent sign means. -/
def jobNamed (name : String) : Action Nat := do
  let jobs := (← getShell).jobs
  let chosen : Except String (Option (Nat × Nat)) :=
    if name = "%" || name = "%+" || name = "%%" then
      match jobs.head? with
      | some job => .ok (some job)
      | none => .error "No current job"
    else if name = "%-" then
      match (jobs.drop 1).head? with
      | some job => .ok (some job)
      | none => .error "No previous job"
    else .ok ((decimal? (String.ofList (name.toList.drop 1))).bind fun n => jobs.find? (·.1 == n))
  match chosen with
  | .ok (some (_, process)) => return process
  | .ok none => refuse ("No such job: " ++ name)
  | .error reason => refuse reason

/-- The number of the process that an argument means. -/
def processOf (arg : String) : Action Nat :=
  if arg.toList.head? = some '%' then jobNamed arg else number arg

/-- What has become of a job. -/
def jobState (now : Nat) (job : Job) : String :=
  if now < job.ends then "Running"
  else
    match job.ending with
    | .exited 0 | .running => "Done"
    | .exited status => "Done(" ++ toString status ++ ")"
    | .killed signal => signalWords signal

/-- `jobs`: the jobs, the newest first. Those that have ended are told once. -/
def listJobs (args : List String) : Action Flow := do
  let (options, args) ← takeOptions "lp" "" args
  let scene ← get
  let all := scene.shell.jobs
  let chosen ← if args.isEmpty then pure (all.map Prod.snd) else args.mapM jobNamed
  for process in chosen do
    let all := (← getShell).jobs
    match scene.system.jobs.find? (·.number == process), all.find? (·.2 == process) with
    | some job, some (place, _) =>
      let sign := if (all.head?.map Prod.snd) = some process then "+"
        else if ((all.drop 1).head?.map Prod.snd) = some process then "-" else " "
      let state := "[" ++ toString place ++ "] " ++ sign ++ " " ++
        (if options.any (·.1 == 'l') then toString process ++ " " else "") ++
        jobState scene.system.now job
      if options.any (·.1 == 'p') then say (toString process ++ "\n")
      else say (state ++ String.ofList (List.replicate (33 - state.length) ' ') ++ "\n")
      unless scene.system.now < job.ends do
        modifyShell fun shell => { shell with jobs := shell.jobs.filter (·.2 != process) }
    | _, _ => pure ()
  ended 0

/-- `fg` and `bg`, of which no job can make use. -/
def resume (args : List String) : Action Flow := do
  let (_, args) ← takeOptions "" "" args
  let _ ← jobNamed (args.headD "%")
  refuse ("job " ++ args.headD "(null)" ++ " not created under job control")

/-- `wait`: for the jobs named, or for all. -/
def wait (args : List String) : Action Flow := do
  let (_, args) ← takeOptions "" "" args
  let chosen ← args.mapM processOf
  let system ← getSystem
  let jobs := system.jobs.filter fun job => chosen.isEmpty || chosen.contains job.number
  match system.waitUntil? ((jobs.map Job.ends).foldl max 0) with
  | none => return .running
  | some system => do
    modifySystem fun _ => system
    modifyShell fun shell => { shell with waited := jobs.map Job.number ++ shell.waited }
    match chosen.getLast? with
    | none => ended 0
    | some process =>
      match system.jobs.find? (·.number == process) with
      | none => ended 127
      | some job => do
        announce job.ending
        ended job.ending.status

/-! ## 3. Sending signals -/

/-- What `kill` is to do. -/
inductive KillOrder where
  | names (args : List String)
  | send (signal : Nat) (targets : List String)
  deriving DecidableEq, Repr

/-- How `kill` is used. -/
def killUsage : String :=
  "Usage: kill [-s sigspec | -signum | -sigspec] [pid | job]... or\nkill -l [exitstatus]"

/-- The order that the arguments of `kill` give. -/
def killOrder (args : List String) : Action KillOrder := do
  let sending (signal : Nat) (targets : List String) : Action KillOrder :=
    if targets.isEmpty then refuse killUsage else return .send signal targets
  match args with
  | [] => refuse killUsage
  | arg :: rest =>
    match after? "-" arg with
    | none => sending 15 args
    | some name =>
      match signal? name with
      | some signal => sending signal rest
      | none => do
        let (options, rest) ← takeOptions "l" "s" args
        let named ← (options.filterMap Prod.snd).mapM fun name =>
          match signal? name with
          | some signal => pure signal
          | none => refuse ("invalid signal number or name: " ++ name)
        if options.any (·.1 == 'l') then
          if named.isEmpty then return .names rest else refuse killUsage
        else sending (named.getLast?.getD 15) rest

/-- Send a signal to a job. -/
def killJob (number signal : Nat) (system : System) : System :=
  if isHarmless signal || isStopping signal then system
  else
    { system with
      jobs := system.jobs.map fun job =>
        if job.number = number && system.now < job.ends then
          { job with ends := system.now, ending := .killed signal }
        else job }

/-- Send a signal to the shell itself; `none` if it goes on. -/
def killSelf (signal : Nat) : Action (Option Flow) := do
  let shell ← getShell
  match (shell.outerTraps.getD shell.traps).lookup signal, isCertain signal with
  | some action, false => do
    unless action.isEmpty do
      modifyShell fun shell => { shell with pending := shell.pending ++ [signal] }
    return none
  | _, _ =>
    if isHarmless signal then return none
    else return some (if isStopping signal then .running else .killed signal)

/-- Send a signal to processes. -/
def killAll (signal : Nat) : List String → Action Flow
  | [] => return .next
  | target :: rest => do
    let isJob := target.toList.head? = some '%'
    let process ← processOf (match after? "-" target with
      | some number => number
      | none => target)
    if process = processNumber || process = 0 then
      match ← killSelf signal with
      | none => killAll signal rest
      | some flow => return flow
    else do
      if !isJob && (← getSystem).jobs.any (·.number == process) then modifySystem (killJob process signal)
      else do
        complain "No such process\n"
        setStatus 1
      killAll signal rest

/-- `kill`. -/
def kill (args : List String) : Action Flow := do
  setStatus 0
  match ← killOrder args with
  | .names [] => do
    say ("0\n" ++ String.join ((List.range maxSignal).map fun n => signalName (n + 1) ++ "\n"))
    return .next
  | .names (arg :: _) => do
    let n ← number arg
    let signal := if 128 < n then n - 128 else n
    if 0 < signal && signal ≤ maxSignal then say (signalName signal ++ "\n")
    else refuse ("invalid signal number or exit status: " ++ arg)
    return .next
  | .send signal targets => killAll signal targets

/-! ## 4. Dealing with signals -/

/-- Note what is to be done at signals; no action means what happens without any. -/
def setTraps (action : Option String) : List String → Action Flow
  | [] => ended 0
  | name :: rest =>
    match signal? name with
    | none => do
      tell ("trap: " ++ name ++ ": bad trap")
      ended 1
    | some signal => do
      modifyShell fun shell =>
        let others := shell.traps.filter (·.1 != signal)
        { shell with traps := match action with
          | some action => (signal, action) :: others
          | none => others }
      setTraps action rest

/-- `trap`. -/
def trap (args : List String) : Action Flow := do
  let (_, args) ← takeOptions "" "" args
  match args with
  | [] => do
    let traps := (← getShell).traps.mergeSort fun a b => a.1 ≤ b.1
    for (signal, action) in traps do
      say ("trap -- " ++ inQuotes action ++ " " ++ signalName signal ++ "\n")
    ended 0
  | [name] => setTraps none [name]
  | action :: names =>
    if (decimal? action).any (· ≤ maxSignal) then setTraps none (action :: names)
    else setTraps (if action = "-" then none else some action) names

end GoldenRun.Machine.Shell
