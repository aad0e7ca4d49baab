import GoldenRun.Run.Plan

/-!
# What performing a plan does

Proofs about plans do not open `Plan.perform`. They compose it from the equations of this file:

* `perform_bind`: one plan after the other is one performance after the other (`Progress.andThen`);
* `perform_within`: a stretch around a plan changes the logged events and nothing else;
* `perform_tell` and its companions: one equation for each thing a plan can do.

A trace is also what a reporter heard: `perform_reporter` says that the reporter was told the callbacks
of the trace, in order, and nothing else.
-/

namespace GoldenRun

variable {σ ρ α β : Type}

/-! ## 1. Deeds -/

namespace Step

/-- A callback or a command: what can be noticed outside, the log apart. -/
def isDeed : Step → Bool
  | callback _ => true
  | command _ _ => true
  | event _ => false

/-- The step as part of a stretch; only a logged event knows of it. -/
def within (span : Span) : Step → Step
  | event e => event (e.within span)
  | step => step

end Step

/-- The callbacks and commands of a trace, in order. -/
def deeds (steps : List Step) : List Step :=
  steps.filter Step.isDeed

@[simp] theorem deeds_nil : deeds [] = [] := rfl

@[simp] theorem deeds_append (a b : List Step) : deeds (a ++ b) = deeds a ++ deeds b :=
  List.filter_append ..

@[simp] theorem deeds_callback (c : Callback) (steps : List Step) :
    deeds (.callback c :: steps) = .callback c :: deeds steps := rfl

@[simp] theorem deeds_command (call : Invocation) (reply : Reply) (steps : List Step) :
    deeds (.command call reply :: steps) = .command call reply :: deeds steps := rfl

@[simp] theorem deeds_event (e : Event) (steps : List Step) :
    deeds (.event e :: steps) = deeds steps := rfl

@[simp] theorem deeds_events (events : List Event) : deeds (events.map .event) = [] := by
  induction events with
  | nil => rfl
  | cons e events ih => exact ih

@[simp] theorem deeds_within (span : Span) (steps : List Step) :
    deeds (steps.map (Step.within span)) = deeds steps := by
  induction steps with
  | nil => rfl
  | cons step steps ih => cases step <;> simp [Step.within, ih]

/-! ## 2. Reporters -/

namespace Reporter

/-- The reporter's state after it was told the callbacks of a trace, whatever it answered. -/
def after (reporter : Reporter ρ) (state : ρ) : List Step → ρ
  | [] => state
  | .callback c :: steps => reporter.after (reporter c state).2 steps
  | _ :: steps => reporter.after state steps

/-- A reporter that answers every callback with success. -/
def Obliging (reporter : Reporter ρ) : Prop :=
  ∀ callback state, (reporter callback state).1 = none

variable (reporter : Reporter ρ) (state : ρ)

@[simp] theorem after_nil : reporter.after state [] = state := rfl

@[simp] theorem after_callback (c : Callback) (steps : List Step) :
    reporter.after state (.callback c :: steps) = reporter.after (reporter c state).2 steps := rfl

@[simp] theorem after_command (call : Invocation) (reply : Reply) (steps : List Step) :
    reporter.after state (.command call reply :: steps) = reporter.after state steps := rfl

@[simp] theorem after_event (e : Event) (steps : List Step) :
    reporter.after state (.event e :: steps) = reporter.after state steps := rfl

@[simp] theorem after_append (a b : List Step) :
    reporter.after state (a ++ b) = reporter.after (reporter.after state a) b := by
  induction a generalizing state with
  | nil => rfl
  | cons step a ih => cases step <;> exact ih _

@[simp] theorem after_events (events : List Event) :
    reporter.after state (events.map .event) = state := by
  induction events with
  | nil => rfl
  | cons e events ih => exact ih

@[simp] theorem after_within (span : Span) (steps : List Step) :
    reporter.after state (steps.map (Step.within span)) = reporter.after state steps := by
  induction steps generalizing state with
  | nil => rfl
  | cons step steps ih => cases step <;> exact ih _

/-- Only callbacks and commands count. -/
theorem after_deeds (steps : List Step) :
    reporter.after state (deeds steps) = reporter.after state steps := by
  induction steps generalizing state with
  | nil => rfl
  | cons step steps ih => cases step <;> exact ih _

end Reporter

/-! ## 3. One plan after the other -/

namespace Progress

/-- Going on where a progress ended, if it ended with a value. -/
def andThen (progress : Progress σ ρ α) (next : α → Session σ ρ → Progress σ ρ β) :
    Progress σ ρ β :=
  match progress.outcome with
  | .ok value =>
    let rest := next value progress.session
    ⟨rest.outcome, progress.steps ++ rest.steps, rest.session⟩
  | .error error => ⟨.error error, progress.steps, progress.session⟩

theorem andThen_after (step : Step) (progress : Progress σ ρ α)
    (next : α → Session σ ρ → Progress σ ρ β) :
    (progress.after step).andThen next = (progress.andThen next).after step := by
  obtain ⟨outcome, steps, session⟩ := progress
  cases outcome <;> rfl

@[simp] theorem andThen_ok (value : α) (steps : List Step) (session : Session σ ρ)
    (next : α → Session σ ρ → Progress σ ρ β) :
    (⟨.ok value, steps, session⟩ : Progress σ ρ α).andThen next =
      ⟨(next value session).outcome, steps ++ (next value session).steps,
        (next value session).session⟩ := rfl

@[simp] theorem andThen_error (error : RunError) (steps : List Step) (session : Session σ ρ)
    (next : α → Session σ ρ → Progress σ ρ β) :
    (⟨.error error, steps, session⟩ : Progress σ ρ α).andThen next =
      ⟨.error error, steps, session⟩ := rfl

end Progress

namespace Plan

section Perform

variable (runner : Runner σ) (reporter : Reporter ρ)

/-- **One plan after the other**: the second is performed where the first ended. -/
theorem perform_bind (plan : Plan α) (next : α → Plan β) (session : Session σ ρ) :
    (plan >>= next).perform runner reporter session =
      (plan.perform runner reporter session).andThen
        fun value session => (next value).perform runner reporter session := by
  change (plan.bind next).perform runner reporter session = _
  induction plan generalizing session with
  | done | fail => rfl
  | notify callback rest ih =>
      simp only [bind, perform]
      rw [Progress.andThen_after]
      cases (reporter callback session.reporter).1 with
      | none => exact congrArg _ (ih _)
      | some error => rfl
  | command call rest ih =>
      simp only [bind, perform]
      rw [Progress.andThen_after]
      exact congrArg _ (ih _ _)
  | log event rest ih =>
      simp only [bind, perform]
      rw [Progress.andThen_after]
      exact congrArg _ (ih _)
  | look rest ih => exact ih _ _
  | lap rest ih => exact ih _ _

/-- **A stretch around a plan** changes the logged events and nothing else. -/
theorem perform_within (span : Span) (plan : Plan α) (session : Session σ ρ) :
    (plan.within span).perform runner reporter session =
      ⟨(plan.perform runner reporter session).outcome,
        (plan.perform runner reporter session).steps.map (Step.within span),
        (plan.perform runner reporter session).session⟩ := by
  induction plan generalizing session with
  | done | fail => rfl
  | notify callback rest ih =>
      simp only [within, perform]
      cases (reporter callback session.reporter).1 with
      | none => rw [ih]; rfl
      | some error => rfl
  | command call rest ih =>
      simp only [within, perform]
      rw [ih]; rfl
  | log event rest ih =>
      simp only [within, perform]
      rw [ih]; rfl
  | look rest ih => exact ih _ _
  | lap rest ih => exact ih _ _

/-- **The reporter is told the callbacks of the trace**, in order, and nothing else. -/
theorem perform_reporter (plan : Plan α) (session : Session σ ρ) :
    (plan.perform runner reporter session).session.reporter =
      reporter.after session.reporter (plan.perform runner reporter session).steps := by
  induction plan generalizing session with
  | done | fail => rfl
  | notify callback rest ih =>
      simp only [perform]
      cases (reporter callback session.reporter).1 with
      | none => exact ih _
      | some error => rfl
  | command call rest ih => exact ih _ _
  | log event rest ih => exact ih _
  | look rest ih => exact ih _ _
  | lap rest ih => exact ih _ _

end Perform

/-! ## 4. One thing at a time -/

section Single

variable {runner : Runner σ} {reporter : Reporter ρ} {session : Session σ ρ}

@[simp] theorem perform_pure (value : α) :
    (pure value : Plan α).perform runner reporter session = ⟨.ok value, [], session⟩ := rfl

@[simp] theorem perform_call (call : Invocation) :
    (Plan.call call).perform runner reporter session =
      ⟨.ok (runner call session.world).1.result, [.command call (runner call session.world).1],
        { session with world := (runner call session.world).2 }⟩ := rfl

/-- A callback to a reporter that never fails. -/
theorem perform_tell (obliging : reporter.Obliging) (c : Callback) :
    (tell c).perform runner reporter session =
      ⟨.ok (), [.callback c],
        { session with reporter := (reporter c session.reporter).2 }⟩ := by
  simp only [tell, perform]
  rw [obliging c session.reporter]
  rfl

@[simp] theorem perform_record (event : Event) :
    (record event).perform runner reporter session = ⟨.ok (), [.event event], session⟩ := rfl

@[simp] theorem perform_recordAll (events : List Event) :
    (recordAll events).perform runner reporter session =
      ⟨.ok (), events.map .event, session⟩ := by
  induction events with
  | nil => rfl
  | cons event events ih => rw [recordAll, perform, ih]; rfl

@[simp] theorem perform_tree :
    tree.perform runner reporter session = ⟨.ok session.world.files, [], session⟩ := rfl

@[simp] theorem perform_elapsed :
    elapsed.perform runner reporter session =
      ⟨.ok (nextLap session.laps).1, [], { session with laps := (nextLap session.laps).2 }⟩ := rfl

@[simp] theorem perform_ofExcept (result : Except RunError α) :
    (ofExcept result).perform runner reporter session = ⟨result, [], session⟩ := by
  cases result <;> rfl

end Single

end Plan

end GoldenRun
