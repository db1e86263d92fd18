import Intake.Proofs.Lifecycle
import Intake.Proofs.Rewording

/-!
Executions side by side. If the record steps of one workflow fail where those of the other panic,
the executions go the same way: the same result, the same final state, the same closes. They differ
in the words of the failures, and the reporter, which reads them, may log what it likes.
-/
namespace Intake.Workflow

variable {ρ : Type}

/-- Workflows that differ in the words of the failures that were exchanged, and in nothing else. -/
structure Akin [Record ρ] (seconds : Float) (w w' : Workflow ρ) : Prop where
  same : w' = { w with progress := w'.progress }
  source : w'.progress.source = w.progress.source
  stations : List.Forall₂ (Station.Akin seconds) w.progress.stations w'.progress.stations

namespace Akin

variable [Record ρ] {seconds : Float} {w w' : Workflow ρ} (h : w.Akin seconds w')

include h

theorem snapshots : List.Forall₂ Snapshot.Reworded w.summary.steps w'.summary.steps := by
  simp only [summary, Progress.statuses, List.map_cons, List.map_map, h.source]
  refine .cons ?_ ?_
  · exact ⟨rfl, List.forall₂_same.mpr fun f _ => ⟨rfl, rfl⟩⟩
  · refine List.forall₂_map_left_iff.mpr (List.forall₂_map_right_iff.mpr (h.stations.imp ?_))
    intro s t akin
    refine akin.status.snapshot fun f g related => ?_
    rcases related with rfl | exchanged
    · exact ⟨rfl, rfl⟩
    · exact exchanged.reworded

theorem totals : w'.summary.totals = w.summary.totals := totals_reworded h.snapshots

theorem render : w'.summary.render = w.summary.render := render_reworded h.snapshots

theorem closings : w'.closings = w.closings := by
  have steps : w'.progress.stations.map (fun s => (s.component, s.step.onClose)) =
      w.progress.stations.map (fun s => (s.component, s.step.onClose)) := by
    have stations := h.stations
    generalize w.progress.stations = ss, w'.progress.stations = ts at stations
    induction stations with
    | nil => rfl
    | cons akin _ ih => rw [List.map_cons, List.map_cons, ih, akin.closing]
  rw [Workflow.closings, Workflow.closings, steps, h.same]

theorem runField : w'.runField = w.runField := by rw [h.same]; rfl

theorem state : w'.state = w.state := by rw [h.same]

theorem finishedEntry : w'.finishedEntry = w.finishedEntry := by
  simp only [Workflow.finishedEntry, Summary.failureRatio, h.totals, h.render, h.runField, h.state]

theorem summaryPayload : w'.summaryPayload = w.summaryPayload := by
  have run : w'.runId = w.runId := by rw [h.same]
  simp only [Workflow.summaryPayload, h.totals, h.render, run, h.state]

theorem stoppedEntry : w'.stoppedEntry = w.stoppedEntry := by
  rw [Workflow.stoppedEntry, h.runField, h.state]
  rfl

theorem report (now : Instant) :
    List.Forall₂ Report.Reworded (w.report? now).toList (w'.report? now).toList := by
  have config : w'.config = w.config := by rw [h.same]
  have fields : w'.runId = w.runId ∧ w'.kind = w.kind ∧ w'.startedAt = w.startedAt := by
    rw [h.same]
    exact ⟨rfl, rfl, rfl⟩
  rw [Workflow.report?, Workflow.report?, config, fields.1, fields.2.1, fields.2.2, h.state]
  cases w.config.pipelineFqn with
  | none => exact .nil
  | some fqn => exact .cons ⟨rfl, h.snapshots⟩ .nil

theorem stop :
    w.stop.workflow.Akin seconds w'.stop.workflow ∧ w'.stop.effects = w.stop.effects := by
  have stopped : w'.stopped = w.stopped := by rw [h.same]
  have timer : w'.timer = w.timer := by rw [h.same]
  have timer' : w'.stopTimer.effects = w.stopTimer.effects := by
    simp only [Workflow.stopTimer, timer, h.runField]
  cases running : w.stopped with
  | true =>
    simp only [Workflow.stop, stopped, running, if_true]
    exact ⟨h, trivial⟩
  | false =>
    rw [stop_unstopped w running, stop_unstopped w' (stopped.trans running), timer', h.closings,
      h.stoppedEntry]
    refine ⟨⟨?_, h.source, h.stations⟩, rfl⟩
    rw [h.same]

theorem verdict (result : Except WorkflowError Unit) : w'.verdict result = w.verdict result := by
  have tolerance : w'.tolerance = w.tolerance := by rw [h.same]
  cases result with
  | ok _ => simp only [Workflow.verdict, Summary.state, h.totals, tolerance]
  | error e => rfl

theorem untouched (first : w.Untouched) : w'.Untouched := by
  rw [h.same]
  exact ⟨first.executed, first.stopped, first.idle⟩

end Akin

section Exchanging

variable [Record ρ] (now : Instant) {w w' : Workflow ρ} (h : w.Akin now.toSeconds w')
  (untouched : w.Untouched)

include h

theorem ran_akin :
    (w'.ran now).result = (w.ran now).result ∧
      (w'.ran now).progress.source = (w.ran now).progress.source ∧
      List.Forall₂ (Station.Akin now.toSeconds) (w.ran now).progress.stations
        (w'.ran now).progress.stations ∧
      List.Forall₂ Effect.Reworded (w.ran now).effects (w'.ran now).effects := by
  have source : w'.source = w.source := by rw [h.same]
  have runId : w'.runId = w.runId := by rw [h.same]
  have timer : w'.timer = w.timer := by rw [h.same]
  rw [ran, ran, source, runId, timer]
  cases w.timer.spawnFault with
  | some reason => exact ⟨rfl, h.source, h.stations, .nil⟩
  | none =>
    obtain ⟨result, status, stations, effects⟩ := (akin_lockstep now.toSeconds).run w.source
      w.source rfl rfl rfl w.runId.text w.progress w'.progress h.source.symm h.stations
    exact ⟨result.symm, status.symm, stations, effects⟩

include untouched

theorem settled_akin : (w.settled now).Akin now.toSeconds (w'.settled now) := by
  obtain ⟨result, source, stations, _⟩ := ran_akin now h
  have first := run_untouched now untouched
  have second := run_untouched now (h.untouched untouched)
  have akin : (w.run now).workflow.Akin now.toSeconds (w'.run now).workflow := by
    rw [first, second]
    refine ⟨?_, source, stations⟩
    rw [h.same]
  have sameResult : (w'.run now).result = (w.run now).result := by rw [first, second, result]
  refine ⟨?_, akin.source, akin.stations⟩
  rw [settled, settled, sameResult, akin.verdict, akin.same]

theorem settling_akin : List.Forall₂ Effect.Reworded (w.settling now) (w'.settling now) := by
  obtain ⟨result, _, _, effects⟩ := ran_akin now h
  have launching : w'.launching = w.launching := by
    rw [h.same]
    rfl
  have failed : w'.failureEntries (w.ran now).result = w.failureEntries (w.ran now).result := by
    rw [h.same]
    cases (w.ran now).result <;> rfl
  rw [settling_eq now untouched, settling_eq now (h.untouched untouched), result, launching, failed]
  have same : ∀ trace, List.Forall₂ Effect.Reworded trace trace :=
    fun trace => List.forall₂_same.mpr fun e _ => .same e
  exact List.rel_append (same _) (List.rel_append effects (same _))

omit untouched in
/-- What is told agrees up to the report; then the reporter logs what it likes. -/
theorem announce_akin (calm : w.reporter.Calm) :
    (w'.announce now).result = (w.announce now).result ∧
      ∃ (front front' : List Effect) (logs logs' : List Log.Entry),
        (w.announce now).effects = front ++ logs.map .logged ∧
          (w'.announce now).effects = front' ++ logs'.map .logged ∧
          List.Forall₂ Effect.Reworded front front' := by
  obtain ⟨logs, reports, effects, ends⟩ := announce_cases now w
  obtain ⟨logs', reports', effects', ends'⟩ := announce_cases now w'
  have events : w'.events = w.events := by rw [h.same]
  have reporter : w'.reporter = w.reporter := by rw [h.same]
  rw [h.finishedEntry, h.summaryPayload, events] at effects'
  rw [h.summaryPayload, events, reporter] at ends'
  -- the payloads are the same, so the event sink panics in both workflows or in neither
  have told : (w'.announce now).result = (w.announce now).result ∧
      List.Forall₂ Report.Reworded reports reports' := by
    rcases ends with ⟨p, taking, rfl, result⟩ | ⟨taking, rfl, result | ⟨r, p, _, panicked, _⟩⟩
    · rcases ends' with ⟨p', taking', rfl, result'⟩ | ⟨taking', _⟩
      · rw [taking, Option.some.injEq] at taking'
        exact ⟨by rw [result, result', taking'], .nil⟩
      · rw [taking] at taking'
        cases taking'
    · rcases ends' with ⟨p', taking', _⟩ | ⟨_, rfl, result' | ⟨r, p, _, panicked, _⟩⟩
      · rw [taking] at taking'
        cases taking'
      · exact ⟨result'.trans result.symm, h.report now⟩
      · exact absurd panicked (calm r p)
    · exact absurd panicked (calm r p)
  refine ⟨told.1, _, _, logs, logs', effects, effects', .cons (.same _) (.cons (.same _) ?_)⟩
  have reported := told.2.imp fun _ _ => Effect.Reworded.reported
  exact List.rel_append (List.forall₂_same.mpr fun e _ => .same e)
    (List.forall₂_map_left_iff.mpr (List.forall₂_map_right_iff.mpr reported))

end Exchanging

structure Turn.Akin [Record ρ] (seconds : Float)
    (t t' : Turn ρ (Except Interruption RunState)) : Prop where
  workflow : t.workflow.Akin seconds t'.workflow
  result : t'.result = t.result
  effects : ∃ (front front' : List Effect) (logs logs' : List Log.Entry) (back : List Effect),
    t.effects = front ++ logs.map .logged ++ back ∧
      t'.effects = front' ++ logs'.map .logged ++ back ∧
      List.Forall₂ Effect.Reworded front front'

theorem execute_akin [Record ρ] (now : Instant) {w w' : Workflow ρ} (h : w.Akin now.toSeconds w')
    (untouched : w.Untouched) (calm : w.reporter.Calm) :
    (w.execute now).Akin now.toSeconds (w'.execute now) := by
  have akin := settled_akin now h untouched
  have settling := settling_akin now h untouched
  have untouched' := h.untouched untouched
  have reporter : (w.settled now).reporter = w.reporter := by rw [settled_eq now untouched]
  obtain ⟨result, front, front', logs, logs', effects, effects', related⟩ :=
    announce_akin now akin (by rw [reporter]; exact calm)
  have ended : (w'.run now).result = (w.run now).result := by
    rw [run_untouched now untouched, run_untouched now untouched', (ran_akin now h).1]
  rw [execute_eq now untouched.executed untouched.stopped,
    execute_eq now untouched'.executed untouched'.stopped]
  simp only [result, effects, effects', ended, akin.state, akin.stop.2]
  have fronts := List.rel_append settling related
  cases ((w.settled now).announce now).result with
  | error i =>
    refine ⟨akin, rfl, _, _, logs, logs', [], ?_, ?_, fronts⟩ <;> simp
  | ok _ =>
    refine ⟨akin.stop.1, rfl, _, _, logs, logs', (w.settled now).stop.effects, ?_, ?_, fronts⟩ <;>
      simp

theorem built_akin [Record ρ] (seconds : Float) {host : Host} {plan : Plan}
    {builder other : PipelineBuilder ρ} {w w' : Workflow ρ}
    (built : (build host plan builder).result = .ok w)
    (built' : (build host plan other).result = .ok w')
    {pipeline : Pipeline ρ} (assembles : plan.Assembles builder pipeline)
    (akin : ∀ q, plan.Assembles other q → pipeline.Akin q) : w.Akin seconds w' := by
  obtain ⟨config, service, p, timer, prepared, assembled, created, rfl, _⟩ := build_ok built
  obtain rfl := assembles.unique ⟨config, service, prepared, assembled⟩
  obtain ⟨config', service', q, timer', prepared', assembled', created', rfl, _⟩ := build_ok built'
  have pipelines := akin q ⟨config', service', prepared', assembled'⟩
  rw [prepared] at prepared'
  cases prepared'
  rw [created] at created'
  cases created'
  refine ⟨?_, ?_, startAll_akin seconds host.now pipelines.steps⟩
  · simp only [fresh, pipelines.source]
  · simp only [fresh, pipelines.source]

end Intake.Workflow
