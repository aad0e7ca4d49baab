import GoldenRun.Proofs.Run.Performance

/-!
# Reporters that fail

A performance under a reporter that may fail is compared with the one in which every failure is
ignored: the same reporter, made forgiving. Nothing here is about a particular plan.

* `Reporter.refusals`: the errors with which a reporter answers the callbacks of a trace;
* `Reporter.Cuts`: one trace is another one up to the first callback that is refused;
* `Plan.perform_uncut_or_cut`: a performance is the forgiving one, or it is cut and ends with the error
  of that callback;
* `Plan.perform_eq_forgiving`: if every callback that was made succeeded, it is the forgiving one.
-/

namespace GoldenRun

variable {σ ρ α : Type}

namespace Reporter

/-! ## 1. Refusals -/

/-- The errors with which a reporter answers the callbacks of a trace, in order. -/
def refusals (reporter : Reporter ρ) (state : ρ) : List Step → List IoError
  | [] => []
  | .callback c :: steps =>
    (reporter c state).1.toList ++ reporter.refusals (reporter c state).2 steps
  | _ :: steps => reporter.refusals state steps

/-- The reporter that behaves the same but answers with success only. -/
def forgiving (reporter : Reporter ρ) : Reporter ρ := fun callback state =>
  (none, (reporter callback state).2)

/-- `cut` is `whole` up to the first callback that the reporter refuses, which it does with `error`. -/
def Cuts (reporter : Reporter ρ) (state : ρ) (whole cut : List Step) (error : IoError) : Prop :=
  ∃ before callback rest,
    whole = before ++ .callback callback :: rest ∧
    cut = before ++ [.callback callback] ∧
    reporter.refusals state before = [] ∧
    (reporter callback (reporter.after state before)).1 = some error

variable {reporter : Reporter ρ} {state : ρ}

theorem forgiving_obliging : reporter.forgiving.Obliging := fun _ _ => rfl

theorem refusals_of_obliging (h : reporter.Obliging) (steps : List Step) :
    reporter.refusals state steps = [] := by
  induction steps generalizing state with
  | nil => rfl
  | cons step steps ih =>
      cases step with
      | callback c => rw [refusals, h c state, ih]; rfl
      | command | event => exact ih

theorem refusals_append (a b : List Step) :
    reporter.refusals state (a ++ b) =
      reporter.refusals state a ++ reporter.refusals (reporter.after state a) b := by
  induction a generalizing state with
  | nil => rfl
  | cons step a ih =>
      cases step with
      | callback c => rw [List.cons_append, refusals, ih, refusals, List.append_assoc]; rfl
      | command | event => exact ih

theorem refusals_deeds (steps : List Step) :
    reporter.refusals state (deeds steps) = reporter.refusals state steps := by
  induction steps generalizing state with
  | nil => rfl
  | cons step steps ih =>
      cases step with
      | callback c => exact congrArg ((reporter c state).1.toList ++ ·) ih
      | command | event => exact ih

/-! ## 2. Cut traces -/

namespace Cuts

variable {whole cut : List Step} {error : IoError}

/-- A step that is no callback may stand in front. -/
theorem cons {step : Step} (hstep : step.callback? = none)
    (h : reporter.Cuts state whole cut error) :
    reporter.Cuts state (step :: whole) (step :: cut) error := by
  obtain ⟨before, callback, rest, rfl, rfl, hb, he⟩ := h
  refine ⟨step :: before, callback, rest, rfl, rfl, ?_, ?_⟩
  · cases step with
    | callback c => simp [Step.callback?] at hstep
    | command | event => exact hb
  · cases step with
    | callback c => simp [Step.callback?] at hstep
    | command | event => exact he

/-- A callback that succeeds may stand in front. -/
theorem cons_callback {c : Callback} (hc : (reporter c state).1 = none)
    (h : reporter.Cuts (reporter c state).2 whole cut error) :
    reporter.Cuts state (.callback c :: whole) (.callback c :: cut) error := by
  obtain ⟨before, callback, rest, rfl, rfl, hb, he⟩ := h
  refine ⟨.callback c :: before, callback, rest, rfl, rfl, ?_, he⟩
  rw [refusals, hc, hb]
  rfl

/-- The same of callbacks and commands alone. -/
theorem among_deeds (h : reporter.Cuts state whole cut error) :
    reporter.Cuts state (deeds whole) (deeds cut) error := by
  obtain ⟨before, callback, rest, rfl, rfl, hb, he⟩ := h
  refine ⟨deeds before, callback, deeds rest, by simp, by simp, ?_, ?_⟩
  · rw [refusals_deeds, hb]
  · rw [after_deeds, he]

/-- In the cut trace exactly the last callback is refused. -/
theorem refusals_cut (h : reporter.Cuts state whole cut error) :
    reporter.refusals state cut = [error] := by
  obtain ⟨before, callback, rest, rfl, rfl, hb, he⟩ := h
  rw [refusals_append, hb, refusals, he]
  rfl

end Cuts

end Reporter

/-! ## 3. Performances -/

namespace Plan

variable (runner : Runner σ) (reporter : Reporter ρ) (plan : Plan α) (session : Session σ ρ)

/-- **A performance is cut at the first failure of the reporter**, and is the forgiving one if there
    is none. -/
theorem perform_uncut_or_cut :
    let real := plan.perform runner reporter session
    let ideal := plan.perform runner reporter.forgiving session
    (reporter.refusals session.reporter ideal.steps = [] ∧ real = ideal) ∨
    ∃ error, reporter.Cuts session.reporter ideal.steps real.steps error ∧
      real.outcome = .error (.io error) := by
  -- Both performances take the same steps until a callback is refused, so the induction on the plan
  -- carries any session that both share.
  induction plan generalizing session with
  | done | fail => exact .inl ⟨rfl, rfl⟩
  | notify callback rest ih =>
      cases hc : (reporter callback session.reporter).1 with
      | some error =>
          refine .inr ⟨error, ⟨[], callback, _, rfl, ?_, rfl, hc⟩, ?_⟩
          · simp [perform, hc, Progress.after, Progress.ended]
          · simp [perform, hc, Progress.after, Progress.ended]
      | none =>
          simp only [perform, hc, Reporter.forgiving]
          rcases ih { session with reporter := (reporter callback session.reporter).2 } with
            ⟨hr, he⟩ | ⟨error, hcut, ho⟩
          · refine .inl ⟨?_, congrArg _ he⟩
            rw [Progress.after, Reporter.refusals, hc]
            exact hr
          · exact .inr ⟨error, hcut.cons_callback hc, ho⟩
  | command call rest ih =>
      rcases ih (runner call session.world).1.result
        { session with world := (runner call session.world).2 } with ⟨hr, he⟩ | ⟨error, hcut, ho⟩
      · exact .inl ⟨hr, congrArg (Progress.after _) he⟩
      · exact .inr ⟨error, hcut.cons rfl, ho⟩
  | log event rest ih =>
      rcases ih session with ⟨hr, he⟩ | ⟨error, hcut, ho⟩
      · exact .inl ⟨hr, congrArg (Progress.after _) he⟩
      · exact .inr ⟨error, hcut.cons rfl, ho⟩
  | look rest ih => exact ih session.world.files session
  | lap rest ih =>
      exact ih (nextLap session.laps).1 { session with laps := (nextLap session.laps).2 }

/-- If every callback that was made succeeded, failures would have changed nothing. -/
theorem perform_eq_forgiving
    (h : reporter.refusals session.reporter (plan.perform runner reporter session).steps = []) :
    plan.perform runner reporter session = plan.perform runner reporter.forgiving session := by
  rcases perform_uncut_or_cut runner reporter plan session with ⟨_, he⟩ | ⟨error, hcut, _⟩
  · exact he
  · rw [hcut.refusals_cut] at h
    cases h

end Plan

end GoldenRun
