import GoldenRun.Run.ProcessRunner

/-!
# What a call of the process runner returns

Whatever the operating system is, a call of a process that was started ends in one of three ways: the process
ended in time, it was killed at the limit, or its end could not be awaited. Which of them it is, when the call
returns and what it returns follows from when the process ends and when its streams are closed.

* `Process.EndsIn`: the process ends by itself, and not behind the limit;
* `Process.Outlasts`: it is still running at the limit;
* `Pipe.ClosedIn`: the stream is closed in time;
* `Process.wait?_cases`: how a wait can go, and one equivalence for each way.

Main statements: `run?_of_not_started`, a call that starts nothing changes nothing; `timedOut_iff`, when a
process is killed; `returned_of_endsIn`, what is returned of one that ended; `moment_le`, no call with a limit
returns much later than that.
-/

namespace GoldenRun

variable {σ : Type}

/-! ## 1. Waiting -/

namespace Process

/-- Left alone, the process ends at the moment, and the limit does not come before that. -/
def EndsIn (process : Process σ) (limit : Option Duration) (moment : Nat) (code : Option Int) : Prop :=
  process.ends? = some (moment, code) ∧ ∀ l ∈ limit, moment ≤ l.toNanos

/-- The limit comes before the end. -/
def Outlasts (process : Process σ) (limit : Duration) : Prop :=
  ∀ moment code, process.ends? = some (moment, code) → limit.toNanos < moment

variable {process : Process σ} {limit : Option Duration} {moment : Nat} {code : Option Int}

theorem EndsIn.unique {moment' : Nat} {code' : Option Int} (h : process.EndsIn limit moment code)
    (h' : process.EndsIn limit moment' code') : moment = moment' ∧ code = code' := by
  have hsame := h.1.symm.trans h'.1
  cases hsame
  exact ⟨rfl, rfl⟩

/-- A process ends in time or is late, not both. -/
theorem Outlasts.not_endsIn {l : Duration} (h : process.Outlasts l) :
    ¬ process.EndsIn (some l) moment code :=
  fun hends => absurd (hends.2 l rfl) (Nat.not_le.mpr (h moment code hends.1))

/-- How a wait can go. -/
theorem wait?_cases (process : Process σ) (limit : Option Duration) :
    (∃ cause, process.refusal? = some cause ∧ process.wait? limit = some (.refused cause)) ∨
    (process.refusal? = none ∧ ∃ moment code, process.EndsIn limit moment code ∧
      process.wait? limit = some (.ended moment code)) ∨
    (process.refusal? = none ∧ ∃ l, limit = some l ∧ process.Outlasts l ∧
      process.wait? limit = some (.overdue l)) ∨
    (process.refusal? = none ∧ process.ends? = none ∧ limit = none ∧ process.wait? limit = none) := by
  unfold wait? EndsIn Outlasts
  cases process.refusal? with
  | some cause => exact .inl ⟨cause, rfl, rfl⟩
  | none =>
      rcases process.ends? with _ | ⟨moment, code⟩
      · cases limit with
        | none => exact .inr (.inr (.inr ⟨rfl, rfl, rfl, rfl⟩))
        | some l => exact .inr (.inr (.inl ⟨rfl, l, rfl, nofun, rfl⟩))
      · cases limit with
        | none => exact .inr (.inl ⟨rfl, moment, code, ⟨rfl, nofun⟩, rfl⟩)
        | some l =>
            by_cases hle : moment ≤ l.toNanos
            · refine .inr (.inl ⟨rfl, moment, code, ⟨rfl, ?_⟩, congrArg some (if_pos hle)⟩)
              rintro _ ⟨⟩
              exact hle
            · refine .inr (.inr (.inl ⟨rfl, l, rfl, ?_, congrArg some (if_neg hle)⟩))
              rintro _ _ ⟨⟩
              exact Nat.not_le.mp hle

theorem wait?_eq_refused_iff {cause : IoError} :
    process.wait? limit = some (.refused cause) ↔ process.refusal? = some cause := by
  rcases process.wait?_cases limit with
    ⟨other, hsome, hwait⟩ | ⟨hnone, _, _, -, hwait⟩ | ⟨hnone, _, -, -, hwait⟩ | ⟨hnone, -, -, hwait⟩
  · simp [hwait, hsome]
  all_goals simp [hwait, hnone]

theorem wait?_eq_ended_iff :
    process.wait? limit = some (.ended moment code) ↔
      process.refusal? = none ∧ process.EndsIn limit moment code := by
  rcases process.wait?_cases limit with
    ⟨cause, hsome, hwait⟩ | ⟨hnone, _, _, hends, hwait⟩ | ⟨-, l, rfl, hlate, hwait⟩ |
    ⟨-, hends, -, hwait⟩
  · simp [hwait, hsome]
  · rw [hwait]
    constructor
    · rintro ⟨⟩
      exact ⟨hnone, hends⟩
    · rintro ⟨-, h⟩
      obtain ⟨rfl, rfl⟩ := hends.unique h
      rfl
  · simp [hwait, hlate.not_endsIn]
  · simp [hwait, EndsIn, hends]

theorem wait?_eq_overdue_iff {l : Duration} :
    process.wait? limit = some (.overdue l) ↔
      process.refusal? = none ∧ limit = some l ∧ process.Outlasts l := by
  rcases process.wait?_cases limit with
    ⟨cause, hsome, hwait⟩ | ⟨-, _, _, hends, hwait⟩ | ⟨hnone, l', rfl, hlate, hwait⟩ |
    ⟨-, -, rfl, hwait⟩
  · simp [hwait, hsome]
  · rw [hwait]
    constructor
    · rintro ⟨⟩
    · rintro ⟨-, rfl, h⟩
      exact absurd hends h.not_endsIn
  · rw [hwait]
    constructor
    · rintro ⟨⟩
      exact ⟨hnone, rfl, hlate⟩
    · rintro ⟨-, ⟨⟩, -⟩
      rfl
  · simp [hwait]

end Process

/-! ## 2. Streams -/

namespace Pipe

/-- All that hold the stream close it, and not behind the deadline. -/
def ClosedIn (pipe : Pipe) (deadline : Nat) : Prop :=
  ∃ closes, pipe.closes? = some closes ∧ closes ≤ deadline

theorem isOpenAt_eq_false_iff (pipe : Pipe) (deadline : Nat) :
    pipe.isOpenAt deadline = false ↔ pipe.ClosedIn deadline := by
  unfold isOpenAt ClosedIn
  cases pipe.closes? <;> simp

/-- **All is collected of a stream that is closed in time**, and nothing of any other. -/
theorem text_eq (pipe : Pipe) (deadline : Nat) :
    (pipe.ClosedIn deadline → pipe.text deadline = pipe.bytes.lossy) ∧
    (¬ pipe.ClosedIn deadline → pipe.text deadline = "") := by
  rw [← isOpenAt_eq_false_iff, text, collected?]
  constructor
  · intro h
    rw [h]
    rfl
  · intro h
    rw [Bool.not_eq_false] at h
    rw [h]
    rfl

/-- One waits from now on, and no longer than to the deadline. -/
theorem waitedUntil_mem (pipe : Pipe) {now deadline : Nat} (h : now ≤ deadline) :
    now ≤ pipe.waitedUntil now deadline ∧ pipe.waitedUntil now deadline ≤ deadline := by
  unfold waitedUntil
  cases hopen : pipe.isOpenAt deadline with
  | true => exact ⟨h, Nat.le_refl _⟩
  | false =>
      obtain ⟨closes, hcloses, hle⟩ := (pipe.isOpenAt_eq_false_iff deadline).mp hopen
      rw [hcloses]
      exact ⟨Nat.le_max_left _ _, Nat.max_le.mpr ⟨h, hle⟩⟩

end Pipe

/-! ## 3. Calls -/

namespace ProcessRunner

variable (runner : ProcessRunner) (host : Host σ) (call : Invocation) (world : World σ)

/-- **A call that starts nothing changes nothing**: the failure names the program and the cause. -/
theorem run?_of_not_started {cause : IoError} (h : spawn host call world = .error cause) :
    ∃ returned, runner.run? host call world = some returned ∧
      returned.reply.result = .error (.spawn call.programName cause) ∧ returned.world = world := by
  unfold run?
  rw [h]
  exact ⟨_, rfl, rfl, rfl⟩

/-- No host is asked for a program whose name or arguments have a zero byte in them. -/
theorem spawn_of_zero (h : ∃ word ∈ call.program :: call.args, (0 : UInt8) ∈ word) :
    spawn host call world = .error zeroByte := by
  obtain ⟨word, hword, hzero⟩ := h
  have hany : (call.program :: call.args).any (·.contains 0) = true :=
    List.any_eq_true.mpr ⟨word, hword, List.contains_iff_mem.mpr hzero⟩
  exact if_pos hany

section AtEnd

variable (process : Process σ) (moment : Nat) (code : Option Int)

theorem world_atEnd : (atEnd call process moment code).world = (process.leaves none).2 := by
  unfold atEnd
  cases call.output <;> rfl

theorem result_of_inherit (h : call.output = .inherit) :
    (atEnd call process moment code).reply.result =
      .ok { exitCode := code, duration := Duration.ofNanos moment } := by
  rw [atEnd, h]

theorem result_of_capture (h : call.output = .capture) :
    (atEnd call process moment code).reply.result =
      .ok { exitCode := code
            stdout := process.stdout.text (moment + drainGrace)
            stderr := process.stderr.text (moment + drainGrace)
            duration := Duration.ofNanos moment } := by
  rw [atEnd, h]

/-- The call of a process that ended gives an outcome. -/
theorem exists_outcome : ∃ outcome, (atEnd call process moment code).reply.result = .ok outcome := by
  cases h : call.output with
  | inherit => exact ⟨_, result_of_inherit call process moment code h⟩
  | capture => exact ⟨_, result_of_capture call process moment code h⟩

/-- A stream is warned of at most once, and nothing else is said about it. -/
theorem warnings_droppedIfOpen (name stream : String) (pipe : Pipe) (deadline : Nat) :
    (RunEvent.droppedIfOpen name stream pipe deadline).filter (·.level = .warn) =
      RunEvent.droppedIfOpen name stream pipe deadline := by
  unfold RunEvent.droppedIfOpen
  split <;> rfl

theorem warnings_of_capture (h : call.output = .capture) :
    (atEnd call process moment code).reply.events.filter (·.level = .warn) =
      RunEvent.droppedIfOpen call.programName "stdout" process.stdout (moment + drainGrace) ++
        RunEvent.droppedIfOpen call.programName "stderr" process.stderr (moment + drainGrace) := by
  have hevents : (atEnd call process moment code).reply.events =
      RunEvent.running call.programName ::
        (RunEvent.droppedIfOpen call.programName "stdout" process.stdout (moment + drainGrace) ++
          RunEvent.droppedIfOpen call.programName "stderr" process.stderr (moment + drainGrace) ++
          [RunEvent.finished call.programName code (Duration.ofNanos moment)]) := by
    simp only [atEnd, h, List.cons_append]
  rw [hevents, List.filter_cons_of_neg (a := RunEvent.running call.programName) Bool.false_ne_true,
    List.filter_append, List.filter_append, warnings_droppedIfOpen, warnings_droppedIfOpen]
  exact List.append_nil _

/-- Collecting takes no longer than the grace period. -/
theorem moment_atEnd :
    moment ≤ (atEnd call process moment code).moment ∧
      (atEnd call process moment code).moment ≤ moment + drainGrace ∧
      (call.output = .inherit → (atEnd call process moment code).moment = moment) := by
  unfold atEnd
  cases call.output with
  | inherit => exact ⟨Nat.le_refl _, Nat.le_add_right _ _, fun _ => rfl⟩
  | capture =>
      have hout := process.stdout.waitedUntil_mem (Nat.le_add_right moment drainGrace)
      have herr := process.stderr.waitedUntil_mem hout.2
      exact ⟨Nat.le_trans hout.1 herr.1, herr.2, nofun⟩

end AtEnd

section Started

variable {process : Process σ} (hspawn : spawn host call world = .ok process)
include hspawn

theorem run?_of_started :
    runner.run? host call world = (process.wait? runner.limit).map (afterWait call process) := by
  rw [run?, hspawn]

/-- **When a process is killed**: exactly if there is a limit and the process outlasts it. Then the call
    returns at the limit, and leaves what a process leaves that is killed at that moment. -/
theorem timedOut_iff (l : Duration) :
    (∃ returned, runner.run? host call world = some returned ∧
        returned.reply.result = .error (.timedOut call.programName l)) ↔
      process.refusal? = none ∧ runner.limit = some l ∧ process.Outlasts l := by
  rw [run?_of_started runner host call world hspawn, ← Process.wait?_eq_overdue_iff]
  cases process.wait? runner.limit with
  | none => simp
  | some waited =>
      cases waited with
      | ended moment code =>
          obtain ⟨outcome, hresult⟩ := exists_outcome call process moment code
          simp [afterWait, hresult]
      | overdue limit => simp [afterWait, withoutResult]
      | refused cause => simp [afterWait, withoutResult]

theorem returned_of_outlasts {l : Duration} (hwait : process.refusal? = none)
    (hlimit : runner.limit = some l) (hlate : process.Outlasts l) :
    ∃ returned, runner.run? host call world = some returned ∧
      returned.reply.result = .error (.timedOut call.programName l) ∧
      returned.world = (process.leaves (some l.toNanos)).2 ∧ returned.moment = l.toNanos := by
  rw [run?_of_started runner host call world hspawn,
    Process.wait?_eq_overdue_iff.mpr ⟨hwait, hlimit, hlate⟩]
  exact ⟨_, rfl, rfl, rfl, rfl⟩

/-- **What is returned of a process that ended in time**: its exit code, how long it ran, and what it leaves
    when it is left alone. If its output is collected, the text of a stream is all that was written to it
    if it was closed within the grace period, and nothing else; each stream that was not is warned of. The
    call returns within that period, and at once if nothing is collected. -/
theorem returned_of_endsIn (hwait : process.refusal? = none) {moment : Nat} {code : Option Int}
    (hends : process.EndsIn runner.limit moment code) :
    ∃ returned outcome, runner.run? host call world = some returned ∧
      returned.reply.result = .ok outcome ∧ outcome.exitCode = code ∧
      outcome.duration.toNanos = moment ∧ returned.world = (process.leaves none).2 ∧
      moment ≤ returned.moment ∧ returned.moment ≤ moment + drainGrace ∧
      (call.output = .inherit → outcome.stdout = "" ∧ outcome.stderr = "" ∧ returned.moment = moment) ∧
      (call.output = .capture →
        let deadline := moment + drainGrace
        outcome.stdout = process.stdout.text deadline ∧ outcome.stderr = process.stderr.text deadline ∧
        returned.reply.events.filter (·.level = .warn) =
          RunEvent.droppedIfOpen call.programName "stdout" process.stdout deadline ++
            RunEvent.droppedIfOpen call.programName "stderr" process.stderr deadline) := by
  rw [run?_of_started runner host call world hspawn, Process.wait?_eq_ended_iff.mpr ⟨hwait, hends⟩]
  have hworld := world_atEnd call process moment code
  obtain ⟨hfrom, hto, hatOnce⟩ := moment_atEnd call process moment code
  cases houtput : call.output with
  | inherit =>
      have hresult := result_of_inherit call process moment code houtput
      exact ⟨atEnd call process moment code, _, rfl, hresult, rfl, Duration.toNanos_ofNanos moment, hworld,
        hfrom, hto, fun _ => ⟨rfl, rfl, hatOnce houtput⟩, nofun⟩
  | capture =>
      have hresult := result_of_capture call process moment code houtput
      have hwarnings := warnings_of_capture call process moment code houtput
      exact ⟨atEnd call process moment code, _, rfl, hresult, rfl, Duration.toNanos_ofNanos moment, hworld,
        hfrom, hto, nofun, fun _ => ⟨rfl, rfl, hwarnings⟩⟩

/-- **A call with a limit returns soon after it**, whatever the process does. -/
theorem moment_le {l : Duration} (hlimit : runner.limit = some l) :
    ∃ returned, runner.run? host call world = some returned ∧
      returned.moment ≤ l.toNanos + drainGrace := by
  rw [run?_of_started runner host call world hspawn]
  cases hwait : process.wait? runner.limit with
  | none =>
      obtain ⟨-, -, hnone⟩ := (process.wait?_eq_none_iff _).mp hwait
      rw [hlimit] at hnone
      cases hnone
  | some waited =>
      refine ⟨_, rfl, ?_⟩
      cases waited with
      | ended moment code =>
          obtain ⟨-, -, hle⟩ := Process.wait?_eq_ended_iff.mp hwait
          have hto := (moment_atEnd call process moment code).2.1
          have hmoment := hle l hlimit
          show (atEnd call process moment code).moment ≤ _
          omega
      | overdue limit =>
          obtain ⟨-, hsame, -⟩ := Process.wait?_eq_overdue_iff.mp hwait
          cases hlimit.symm.trans hsame
          exact Nat.le_add_right _ _
      | refused cause => exact Nat.zero_le _

end Started

end ProcessRunner

end GoldenRun
