import Intake.Proofs.Replies
import Mathlib.Data.List.Nodup

/-!
Guaranteed cleanup. Whatever is asked of a workflow, in whatever order and however the run went,
every component is closed once: the catalog client, the source, and the steps in their order. The
timer is stopped before that, and nothing is done after it.
-/
namespace Intake

variable {ρ : Type}

def Pipeline.closings (catalog : Catalog) (p : Pipeline ρ) : List (Component × Reply) :=
  (.catalog, catalog.onClose) :: (.source p.source.name, p.source.onClose) ::
    p.steps.mapIdx fun i s => (.step (i + 1) s.role s.name, s.onClose)

def Reply.isTrouble : Reply → Bool
  | .done => false
  | .failed _ | .panicked _ => true

def warningsIn (trace : List Effect) : List Log.Entry :=
  (logOf trace).filter fun e => e.severity = .warn

theorem warningsIn_append (a b : List Effect) :
    warningsIn (a ++ b) = warningsIn a ++ warningsIn b := by
  simp [warningsIn, logOf]

theorem warningsIn_closes (closings : List (Component × Reply)) :
    (warningsIn (closes closings)).map (·.fields) =
      (closings.filter fun c => c.2.isTrouble).map fun c =>
        [("component", Log.Value.text c.1.text)] := by
  induction closings with
  | nil => rfl
  | cons c rest ih =>
    obtain ⟨component, reply⟩ := c
    cases reply with
    | done => exact ih
    | failed e => exact congrArg (_ :: ·) ih
    | panicked p => exact congrArg (_ :: ·) ih

/-- Where the component stands in the pipeline; the catalog is not part of it. -/
def Component.place? : Component → Option Nat
  | .catalog => none
  | .source _ => some 0
  | .step place _ _ => some place

/-- Places tell the components apart, even those that share a name. -/
theorem Pipeline.closings_nodup (catalog : Catalog) (p : Pipeline ρ) :
    ((p.closings catalog).map (·.1)).Nodup := by
  -- names may repeat, so the components are told apart by where they stand
  have places : ((p.closings catalog).map (·.1)).map Component.place? =
      none :: (List.range (p.steps.length + 1)).map some := by
    rw [List.range_succ_eq_map]
    simp only [closings, List.map_cons, Component.place?]
    congr 2
    apply List.ext_getElem <;> simp [Component.place?]
  apply List.Nodup.of_map Component.place?
  rw [places, List.nodup_cons]
  refine ⟨by simp, ?_⟩
  exact List.nodup_range.map fun _ _ => Option.some.inj

namespace Workflow

theorem closings_eq (w : Workflow ρ) :
    w.closings =
      (.catalog, w.catalog.onClose) :: (.source w.source.name, w.source.onClose) ::
        (fixtures w.progress.stations).map fun t =>
          (.step t.1 t.2.role t.2.name, t.2.onClose) := by
  simp [closings, fixtures, Station.component]

theorem fresh_closings (host : Host) (plan : Plan) (config : Config) (pipeline : Pipeline ρ)
    (timer : Timer) :
    (fresh host plan config pipeline timer).closings = pipeline.closings plan.catalog := by
  have steps : (Station.startAll host.now pipeline.steps).map
      (fun s => (s.component, s.step.onClose)) =
        pipeline.steps.mapIdx fun i s => (.step (i + 1) s.role s.name, s.onClose) := by
    apply List.ext_getElem <;> simp [Station.startAll, Station.start, Station.component]
  simp only [closings, Pipeline.closings, fresh, steps]

theorem stopTimer_stops (w : Workflow ρ) (trace : List Effect)
    (shown : timerRuns trace = w.timer.isRunning) :
    timerRuns (trace ++ w.stopTimer.effects) = false := by
  cases running : w.timer.isRunning with
  | false =>
    have nothing : w.stopTimer.effects = [] := by simp [stopTimer, Timer.stop, running]
    rw [nothing, List.append_nil, shown, running]
  | true =>
    have last : w.stopTimer.effects.filterMap Effect.timer? = [false] := by
      simp only [stopTimer, Timer.stop, running, if_true]
      rfl
    rw [timerRuns, List.filterMap_append, last, List.getLast?_concat]
    rfl

theorem stop_timer (w : Workflow ρ) (unstopped : w.stopped = false) :
    w.stop.workflow.timer.isRunning = false := by
  rw [stop_unstopped w unstopped]
  rfl

variable [Record ρ] {w : Workflow ρ}

theorem settled_closings (now : Instant) (untouched : w.Untouched) :
    (w.settled now).closings = w.closings := by
  rw [closings_eq, closings_eq, settled_eq now untouched]
  simp only [ran_fixtures]

theorem settled_unstopped (now : Instant) (untouched : w.Untouched) :
    (w.settled now).stopped = false := by
  rw [settled_eq now untouched]
  exact untouched.stopped

theorem announced_timer (now : Instant) (untouched : w.Untouched) :
    timerRuns (w.settling now ++ ((w.settled now).announce now).effects) =
      (w.settled now).timer.isRunning := by
  have told : ((w.settled now).announce now).effects.filterMap Effect.timer? = [] := by
    refine List.filterMap_eq_nil_iff.mpr fun e member => ?_
    rcases announce_tells now _ e member with ⟨_, rfl⟩ | ⟨_, _, rfl⟩ | ⟨_, rfl⟩ <;> rfl
  obtain ⟨rest, inner, ⟨settling, running⟩ | ⟨settling, idle⟩⟩ := settling_inner now untouched
  · rw [timerRuns_untimed told, settling, ← List.singleton_append, timerRuns_untimed inner.untimed,
      running]
    rfl
  · rw [timerRuns_untimed told, settling, ← List.nil_append rest, timerRuns_untimed inner.untimed,
      idle]
    rfl

theorem beforeStop_closings (untouched : w.Untouched) (c : Call) :
    (w.beforeStop c).closings = w.closings := by
  cases c with
  | execute now => exact settled_closings now untouched
  | stop => rfl

theorem beforeStop_unstopped (untouched : w.Untouched) (c : Call) :
    (w.beforeStop c).stopped = false := by
  cases c with
  | execute now => exact settled_unstopped now untouched
  | stop => exact untouched.stopped

theorem opening_timer (untouched : w.Untouched) (c : Call) :
    closesIn (w.opening c) = [] ∧ timerRuns (w.opening c) = false := by
  cases c with
  | stop =>
    have idle : w.timer.isRunning = false := by simp [Timer.isRunning, untouched.idle]
    exact ⟨stopTimer_closes w, stopTimer_stops w [] idle.symm⟩
  | execute now =>
    refine ⟨?_, stopTimer_stops _ _ (announced_timer now untouched)⟩
    simp only [opening, closesIn_append, settling_closes, announce_closes, stopTimer_closes,
      List.append_nil]

theorem performAll_untouched (untouched : w.Untouched) (calmReporter : w.reporter.Calm)
    (calmEvents : w.events.Calm) (c : Call) (rest : List Call) :
    (w.performAll (c :: rest)).workflow = (w.beforeStop c).stop.workflow ∧
      (w.performAll (c :: rest)).effects =
        w.opening c ++ closes w.closings ++ [.logged (w.beforeStop c).stoppedEntry] := by
  obtain ⟨workflow, effects⟩ := perform_untouched untouched calmReporter calmEvents c
  have stopped : (w.perform c).workflow.stopped = true := by rw [workflow, stop_stopped]
  obtain ⟨same, silent⟩ := performAll_stopped _ stopped rest
  rw [performAll, silent, List.append_nil, effects, beforeStop_closings untouched c]
  exact ⟨same.trans workflow, rfl⟩

/-- Whatever is asked of a built workflow, and in whatever order, everything is closed once, and how
it closes makes no difference to anything else. -/
theorem performAll_closes_once {host : Host} {plan : Plan} {builder : PipelineBuilder ρ}
    (built : (build host plan builder).result = .ok w) (calmReporter : plan.reporter.Calm)
    (calmEvents : plan.events.Calm) (calls : List Call) (asked : calls ≠ []) :
    ∃ pipeline, plan.Assembles builder pipeline ∧
      let closings := pipeline.closings plan.catalog
      let performed := w.performAll calls
      closesIn performed.effects = closings ∧ (closings.map (·.1)).Nodup ∧
        performed.workflow.timer.isRunning = false ∧
        (∃ before after, performed.effects = before ++ closes closings ++ after ∧
          closesIn before = [] ∧ timerRuns before = false ∧
          closesIn after = [] ∧ (∀ e ∈ after, e.isWork = false) ∧
          (warningsIn (closes closings ++ after)).map (·.fields) =
            (closings.filter fun c => c.2.isTrouble).map fun c =>
              [("component", Log.Value.text c.1.text)]) ∧
        ∀ f : Component → Reply,
          let other := (w.closingWith f).performAll calls
          other.result = performed.result ∧
            other.workflow.state = performed.workflow.state ∧
            other.effects = performed.effects.map (Effect.closingWith f) := by
  obtain ⟨config, service, pipeline, timer, prepared, assembled, _, fresh, _⟩ := build_ok built
  have untouched := built_untouched built
  have closings : w.closings = pipeline.closings plan.catalog := by
    rw [fresh, fresh_closings]
  refine ⟨pipeline, ⟨config, service, prepared, assembled⟩, ?_⟩
  obtain ⟨c, rest, rfl⟩ := List.exists_cons_of_ne_nil asked
  -- the first call stops the workflow, whichever it is, and the others find nothing to do
  obtain ⟨workflow, effects⟩ := performAll_untouched untouched (by rw [fresh]; exact calmReporter)
    (by rw [fresh]; exact calmEvents) c rest
  rw [closings] at effects
  obtain ⟨none, timer⟩ := opening_timer untouched c
  refine ⟨?_, pipeline.closings_nodup plan.catalog, ?_,
    ⟨_, _, effects, none, timer, rfl, ?_, ?_⟩, ?_⟩
  · rw [effects, closesIn_append, closesIn_append, none, closesIn_closes]
    exact List.append_nil _
  · rw [workflow]
    exact stop_timer _ (beforeStop_unstopped untouched c)
  · simp [Effect.isWork]
  · rw [← warningsIn_closes, warningsIn_append]
    exact congrArg _ (List.append_nil _)
  · intro f
    simp only [performAll_closingWith]
    exact ⟨trivial, rfl, trivial⟩

def troubledPipeline : Pipeline String where
  source := { lossySource with onClose := .failed (.ofMessage "socket gone") }
  steps :=
    [.record .sink ((Scripted.Script.mk [] [] .consume).step "load" (.panicked .unreadable)),
      .bulk (Scripted.bulkSink "publish" [] .done)]

theorem performAll_closes_once_troubled :
    let performed := (deployed troubledPipeline).performAll
      [.execute .epoch, .stop, .execute .epoch]
    deployedPlan.reporter.Calm ∧ deployedPlan.events.Calm ∧
      closesIn performed.effects =
        [(.catalog, .done), (.source "crm", .failed (.ofMessage "socket gone")),
          (.step 1 .sink "load", .panicked .unreadable),
          (.step 2 .bulkSink "publish", .done)] ∧
      performed.workflow.timer.isRunning = false := by
  intro performed
  obtain ⟨calmReporter, calmEvents⟩ := deployedPlan_calm
  refine ⟨calmReporter, calmEvents, ?_⟩
  obtain ⟨pipeline, ⟨_, _, _, assembled⟩, closed, _, timer, _⟩ :=
    performAll_closes_once (deployed_built troubledPipeline) calmReporter calmEvents
      [.execute .epoch, .stop, .execute .epoch] (List.cons_ne_nil _ _)
  cases assembled
  exact ⟨closed, timer⟩

end Workflow

end Intake
