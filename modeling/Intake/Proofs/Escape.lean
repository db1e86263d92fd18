import Intake.Proofs.Agreement
import Intake.Proofs.Cleanup

/-!
A panic on the way to the final stop. An execution closes everything, unless the event sink or the
reporter panics while the end of the run is told. Then the execution is left before it has stopped:
the timer goes on if it has its thread, and every component stays open, until somebody stops the
workflow.
-/
namespace Intake.Workflow

variable {ρ : Type}

theorem announce_lost {now : Instant} {w : Workflow ρ} {p : Payload} (lost : w.Lost now p) :
    ∃ q, (w.announce now).result = .error (.panic q) := by
  unfold announce emit
  cases taking : w.events.panics summaryEvent (some w.summaryPayload) with
  | some q => exact ⟨q, by simp [bind, Traced.bind, Traced.tell]⟩
  | none =>
    rcases lost with panicked | ⟨r, made, panicked⟩
    · rw [taking] at panicked
      cases panicked
    · exact ⟨p, by simp [bind, Traced.bind, Traced.tell, pure, sendReport, made, panicked]⟩

theorem stop_lost {now : Instant} {w : Workflow ρ} {p : Payload} :
    w.stop.workflow.Lost now p ↔ w.Lost now p := by
  obtain ⟨_, _, payload, report⟩ := stop_views now w
  have same : w.stop.workflow.events = w.events ∧ w.stop.workflow.reporter = w.reporter := by
    unfold stop
    split <;> exact ⟨rfl, rfl⟩
  rw [Lost, Lost, payload, report, same.1, same.2]

structure Cleaned (closings : List (Component × Reply))
    (t : Turn ρ (Except Interruption RunState)) : Prop where
  closed : closesIn t.effects = closings
  timer : timerRuns t.effects = false ∧ t.workflow.timer.isRunning = false
  stopped : t.workflow.stopped = true
  returned : ∀ p, t.result ≠ .error (.panic p)

/-- A panic has left the execution, with everything open and the timer running if it has got its
thread. A later stop makes up for it. -/
structure Escaped (closings : List (Component × Reply))
    (t : Turn ρ (Except Interruption RunState)) : Prop where
  panicked : ∃ p, t.result = .error (.panic p)
  unclosed : closesIn t.effects = []
  timer : timerRuns t.effects = t.workflow.timer.isRunning ∧
    t.workflow.timer.isRunning = t.workflow.timer.spawnFault.isNone
  stopped : t.workflow.stopped = false
  later : closesIn t.workflow.stop.effects = closings ∧
    timerRuns (t.effects ++ t.workflow.stop.effects) = false ∧
    t.workflow.stop.workflow.timer.isRunning = false

theorem closing_untimed (closings : List (Component × Reply)) (entry : Log.Entry) :
    (closes closings ++ [Effect.logged entry]).filterMap Effect.timer? = [] := by
  refine List.filterMap_eq_nil_iff.mpr fun e member => ?_
  rcases List.mem_append.mp member with closed | logged
  · obtain ⟨_, _, rfl⟩ := List.mem_map.mp closed
    rfl
  · rw [List.mem_singleton.mp logged]
    rfl

section Executing

variable [Record ρ] (now : Instant) {w : Workflow ρ} (untouched : w.Untouched)

include untouched

theorem settled_running :
    (w.settled now).timer.isRunning = (w.settled now).timer.spawnFault.isNone := by
  rw [settled_eq now untouched]
  simp only [Timer.launched]
  cases spawns : w.timer.spawnFault <;> simp [Timer.isRunning, untouched.idle, spawns]

theorem settled_stop {trace : List Effect}
    (shown : timerRuns trace = (w.settled now).timer.isRunning) :
    let s := (w.settled now).stop
    closesIn s.effects = w.closings ∧ timerRuns (trace ++ s.effects) = false ∧
      s.workflow.timer.isRunning = false := by
  have unstopped := settled_unstopped now untouched
  refine ⟨?_, ?_, stop_timer _ unstopped⟩
  · rw [stop_unstopped _ unstopped]
    simp only [closesIn_append, stopTimer_closes, closesIn_closes, settled_closings now untouched]
    exact List.append_nil _
  · rw [stop_unstopped _ unstopped, List.append_assoc, ← List.append_assoc trace,
      timerRuns_untimed (closing_untimed _ _)]
    exact stopTimer_stops _ _ shown

theorem execute_ends :
    let t := w.execute now
    Cleaned w.closings t ∧ (∀ p, ¬ t.workflow.Lost now p) ∨
      Escaped w.closings t ∧ ∃ p, t.workflow.Lost now p := by
  intro t
  have shown := announced_timer now untouched
  obtain ⟨closed, timer⟩ := settled_stop now untouched shown
  -- only a panic in the announcement keeps the stop from coming after it
  rcases execute_cases now untouched with ⟨told, returned⟩ | ⟨p, lost, _, left⟩
  · rw [show t = _ from returned]
    refine .inl ⟨⟨?_, timer, stop_stopped _, ?_⟩, ?_⟩
    · rw [closesIn_append, closesIn_append, settling_closes, announce_closes, closed]
      rfl
    · intro p panicked
      cases ended : (w.ran now).result <;> simp [ended, Except.map, Except.mapError] at panicked
    · intro p lost
      obtain ⟨q, panicked⟩ := announce_lost (stop_lost.mp lost)
      rw [told] at panicked
      cases panicked
  · rw [show t = _ from left]
    refine .inr ⟨⟨⟨p, rfl⟩, ?_, ⟨shown, settled_running now untouched⟩,
      settled_unstopped now untouched, closed, timer⟩, p, lost⟩
    rw [closesIn_append, settling_closes, announce_closes]
    rfl

end Executing

/-- Whatever the reporter and the event sink do: either everything is closed once by the time the
execution has returned, or one of them has panicked over the end of the run, and nothing is. -/
theorem execute_cleans_or_escapes [Record ρ] {host : Host} {plan : Plan}
    {builder : PipelineBuilder ρ} {w : Workflow ρ}
    (built : (build host plan builder).result = .ok w) (now : Instant) :
    ∃ pipeline, plan.Assembles builder pipeline ∧
      let closings := pipeline.closings plan.catalog
      let t := w.execute now
      (closings.map (·.1)).Nodup ∧
        (Cleaned closings t ∧ (∀ p, ¬ t.workflow.Lost now p) ∨
          Escaped closings t ∧ ∃ p, t.workflow.Lost now p) := by
  have untouched := built_untouched built
  obtain ⟨config, service, pipeline, timer, prepared, assembled, _, fresh, _⟩ := build_ok built
  have closings : w.closings = pipeline.closings plan.catalog := by
    rw [fresh, fresh_closings]
  refine ⟨pipeline, ⟨config, service, prepared, assembled⟩,
    pipeline.closings_nodup plan.catalog, ?_⟩
  rw [← closings]
  exact execute_ends now untouched

def brittleReporter : Reporter where
  entries := fun _ => []
  answer := fun r => if r.state.isTerminal then .panicked (.text "hung up") else .done

def brittlePlan : Plan := { deployedPlan with reporter := brittleReporter }

def brittle (pipeline : Pipeline String) : Workflow String :=
  fresh ⟨.epoch, ⟨0⟩, none⟩ brittlePlan .deployedSample pipeline
    ⟨"ingestion-progress", .seconds 60, .idle, none⟩

theorem brittle_built (pipeline : Pipeline String) :
    (build ⟨.epoch, ⟨0⟩, none⟩ brittlePlan (Prebuilt.ofPipeline pipeline).builder).result =
      .ok (brittle pipeline) :=
  rfl

theorem brittle_panics : ((brittle troubledPipeline).execute .epoch).result =
    .error (.panic (.text "hung up")) :=
  rfl

theorem execute_cleans_or_escapes_brittle :
    let t := (brittle troubledPipeline).execute .epoch
    closesIn t.effects = [] ∧ timerRuns t.effects = true ∧
      (closesIn t.workflow.stop.effects).map (·.1) =
        [.catalog, .source "crm", .step 1 .sink "load", .step 2 .bulkSink "publish"] := by
  intro t
  obtain ⟨_, ⟨_, _, _, assembled⟩, _, ⟨cleaned, _⟩ | ⟨escaped, _⟩⟩ :=
    execute_cleans_or_escapes (brittle_built troubledPipeline) .epoch
  · exact absurd brittle_panics (cleaned.returned _)
  · cases assembled
    refine ⟨escaped.unclosed, escaped.timer.1, ?_⟩
    rw [escaped.later.1]
    rfl

theorem execute_not_always_closing :
    ¬ ∀ (host : Host) (plan : Plan) (builder : PipelineBuilder String) (w : Workflow String),
      (build host plan builder).result = .ok w →
        ∀ now, (closesIn (w.execute now).effects).map (·.1) = w.closings.map (·.1) := by
  intro closes
  have untouched := built_untouched (brittle_built troubledPipeline)
  have closed := closes _ _ _ _ (brittle_built troubledPipeline) .epoch
  rcases execute_ends .epoch untouched with ⟨cleaned, _⟩ | ⟨escaped, _⟩
  · exact absurd brittle_panics (cleaned.returned _)
  · rw [escaped.unclosed] at closed
    cases closed

end Intake.Workflow
