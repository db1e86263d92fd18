import Intake.Proofs.Lifecycle

/-!
Sequences of calls on one workflow. Whoever holds a workflow can execute it and stop it, in any
order and as often as they like; only the first call has anything to do that matters.
-/
namespace Intake

inductive Call where
  | execute (now : Instant)
  | stop

abbrev Answer := Option (Except Interruption RunState)

namespace Workflow

variable {ρ : Type} [Record ρ]

def perform (w : Workflow ρ) : Call → Turn ρ Answer
  | .execute now => ⟨(w.execute now).workflow, some (w.execute now).result, (w.execute now).effects⟩
  | .stop => ⟨w.stop.workflow, none, w.stop.effects⟩

def performAll (w : Workflow ρ) : List Call → Turn ρ (List Answer)
  | [] => ⟨w, [], []⟩
  | c :: rest =>
    let first := w.perform c
    let others := first.workflow.performAll rest
    ⟨others.workflow, first.result :: others.result, first.effects ++ others.effects⟩

theorem perform_stopped (w : Workflow ρ) (stopped : w.stopped = true) (c : Call) :
    (w.perform c).workflow = w ∧ (w.perform c).effects = [] := by
  cases c with
  | stop => simp [perform, stop, stopped]
  | execute now =>
    by_cases executed : w.executed = true
    · simp [perform, execute, executed]
    · simp [perform, execute, executed, stopped]

theorem performAll_stopped (w : Workflow ρ) (stopped : w.stopped = true) (calls : List Call) :
    (w.performAll calls).workflow = w ∧ (w.performAll calls).effects = [] := by
  induction calls with
  | nil => exact ⟨rfl, rfl⟩
  | cons c rest ih =>
    obtain ⟨same, silent⟩ := perform_stopped w stopped c
    simpa only [performAll, same, silent, List.nil_append] using ih

def opening (w : Workflow ρ) : Call → List Effect
  | .execute now =>
    w.settling now ++ ((w.settled now).announce now).effects ++
      (w.settled now).stopTimer.effects
  | .stop => w.stopTimer.effects

def beforeStop (w : Workflow ρ) : Call → Workflow ρ
  | .execute now => w.settled now
  | .stop => w

theorem perform_untouched {w : Workflow ρ} (untouched : w.Untouched)
    (calmReporter : w.reporter.Calm) (calmEvents : w.events.Calm) (c : Call) :
    (w.perform c).workflow = (w.beforeStop c).stop.workflow ∧
      (w.perform c).effects =
        w.opening c ++ closes (w.beforeStop c).closings ++
          [.logged (w.beforeStop c).stoppedEntry] := by
  cases c with
  | stop =>
    refine ⟨rfl, ?_⟩
    simp only [perform, beforeStop, opening, stop_unstopped w untouched.stopped]
  | execute now =>
    have same := settled_eq now untouched
    have running : (w.settled now).stopped = false := by rw [same]; exact untouched.stopped
    have told : ((w.settled now).announce now).result = .ok () := by
      apply announce_calm <;> rw [same] <;> assumption
    rcases execute_cases now untouched with ⟨_, returned⟩ | ⟨p, _, panicked, _⟩
    · refine ⟨by simp only [perform, beforeStop, returned], ?_⟩
      simp only [perform, beforeStop, opening, returned, stop_unstopped _ running,
        List.append_assoc]
    · rw [told] at panicked
      cases panicked

end Workflow

end Intake
