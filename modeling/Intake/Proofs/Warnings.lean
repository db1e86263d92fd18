import Intake.Proofs.Agreement
import Intake.Proofs.Muting
import Intake.Scripted.Source

/-!
Warnings never decide anything. Take two pipelines that differ only in the warnings that their
components raise. Executions of the two come to the same state with the same counters and entries,
and whoever looks at them finds a difference only where warnings are counted, listed or repeated.
-/
namespace Intake

variable {ρ : Type}

section Views

def Snapshot.muted (s : Snapshot) : Snapshot :=
  { s with
    counts := { s.counts with warnings := 0 }
    warnings := [] }

def Report.muted (r : Report) : Report := { r with steps := r.steps.map Snapshot.muted }

namespace Summary

def muted (s : Summary) : Summary := ⟨s.steps.map Snapshot.muted⟩

def warningFigures (s : Summary) : List String :=
  s.steps.map fun step => toString step.counts.warnings

/-- The line of a step with this figure in the place of its warnings. -/
def lineWith (figure : String) (step : Snapshot) : String :=
  let c := step.counts
  step.name ++ " (" ++ step.role.text ++ "): scanned=" ++ toString c.scanned ++
    " filtered=" ++ toString c.filtered ++ " warnings=" ++ figure ++
    " failed=" ++ toString c.failed ++ " failure_ratio=" ++ percent c.failureRatio ++ "\n"

def renderWith (figures : List String) (s : Summary) : String :=
  String.join (List.zipWith lineWith figures s.steps) ++
    "Total: processed=" ++ toString s.totals.processed ++
    " failed=" ++ toString s.totals.failed ++
    " failure_ratio=" ++ percent s.totals.failureRatio

theorem totals_muted (s : Summary) : s.muted.totals = { s.totals with warnings := 0 } := by
  have folded : ∀ (steps : List Snapshot) (sum : Counts),
      (steps.map Snapshot.muted).foldl (fun sum step => sum + step.counts)
          { sum with warnings := 0 } =
        { steps.foldl (fun sum step => sum + step.counts) sum with warnings := 0 } := by
    intro steps
    induction steps with
    | nil => exact fun _ => rfl
    | cons step rest ih => exact fun sum => ih (sum + step.counts)
  exact folded s.steps .zero

theorem state_muted (s : Summary) (t : Tolerance) : s.muted.state t = s.state t := by
  rw [state, totals_muted]
  rfl

theorem failureRatio_muted (s : Summary) : s.muted.failureRatio = s.failureRatio := by
  rw [failureRatio, totals_muted]
  rfl

/-- In the text of a summary, warnings show as figures and nowhere else. -/
theorem render_muted (s : Summary) : s.render = s.muted.renderWith s.warningFigures := by
  have lines : ∀ steps : List Snapshot, steps.map line =
      List.zipWith lineWith (steps.map fun step => toString step.counts.warnings)
        (steps.map Snapshot.muted) := by
    intro steps
    induction steps with
    | nil => rfl
    | cons step rest ih => exact congrArg (line step :: ·) ih
  rw [render, renderWith, totals_muted, lines]
  rfl

end Summary

end Views

/-- The sources answer every pull in the same way, whatever warnings they raise by the way. -/
structure Source.UpToWarnings (s t : Source ρ) : Prop where
  name : t.name = s.name
  onClose : t.onClose = s.onClose
  pulls : ∀ n, (t.pull n).muted = (s.pull n).muted

structure Pipeline.UpToWarnings (p q : Pipeline ρ) : Prop where
  source : p.source.UpToWarnings q.source
  steps : q.steps.map Step.muted = p.steps.map Step.muted

theorem run_upToWarnings [Record ρ] {s t : Source ρ} {g h : Progress ρ}
    (sources : s.UpToWarnings t) (progress : h.muted = g.muted) (runId : String)
    (seconds : Float) :
    (t.run runId seconds h).result = (s.run runId seconds g).result ∧
      (t.run runId seconds h).progress.muted = (s.run runId seconds g).progress.muted ∧
      Effect.unwarned (t.run runId seconds h).effects =
        Effect.unwarned (s.run runId seconds g).effects := by
  have pulls : ∀ n, t.muted.pull n = s.muted.pull n := by
    intro n
    rw [Source.muted_pull, Source.muted_pull, sources.pulls]
  have same := run_of_pulls seconds (s := s.muted) (t := t.muted) sources.name pulls runId g.muted
  rw [← progress, run_muted, progress, run_muted, Ran.mk.injEq] at same
  exact ⟨same.2.1, same.1, same.2.2⟩

namespace Workflow

def payloadWith (warnings : Nat) (text : String) (w : Workflow ρ) : Json :=
  .normal (.object [("run_id", .text w.runId.text), ("state", w.state.toJson),
    ("totals", { w.summary.totals with warnings := warnings }.toJson), ("summary", .text text)])

structure UpToWarnings (w v : Workflow ρ) : Prop where
  same : v = { w with
    source := v.source
    progress := v.progress }
  source : w.source.UpToWarnings v.source
  progress : v.progress.muted = w.progress.muted

theorem built_upToWarnings {host : Host} {plan : Plan} {builder other : PipelineBuilder ρ}
    {w v : Workflow ρ} (built : (build host plan builder).result = .ok w)
    (built' : (build host plan other).result = .ok v)
    (pipelines : ∀ p q, plan.Assembles builder p → plan.Assembles other q → p.UpToWarnings q) :
    w.UpToWarnings v := by
  obtain ⟨config, service, p, timer, prepared, assembled, created, rfl, _⟩ := build_ok built
  obtain ⟨config', service', q, timer', prepared', assembled', created', rfl, _⟩ := build_ok built'
  obtain ⟨source, steps⟩ := pipelines p q ⟨config, service, prepared, assembled⟩
    ⟨config', service', prepared', assembled'⟩
  rw [prepared] at prepared'
  cases prepared'
  rw [created] at created'
  cases created'
  refine ⟨rfl, source, ?_⟩
  simp only [fresh, Progress.muted, startAll_muted, steps, source.name]

namespace UpToWarnings

variable {w v : Workflow ρ} (h : w.UpToWarnings v)

include h

theorem summary : v.summary.muted = w.summary.muted := by
  have view : ∀ u : Workflow ρ, u.summary.muted =
      ⟨u.progress.muted.statuses.map Status.snapshot⟩ := by
    intro u
    simp only [Workflow.summary, Summary.muted, Progress.statuses, Progress.muted, List.map_cons,
      List.map_map]
    rfl
  rw [view, view, h.progress]

theorem received :
    v.progress.stations.map (·.received) = w.progress.stations.map (·.received) := by
  have view : ∀ g : Progress ρ,
      g.stations.map (·.received) = g.muted.stations.map (·.received) := by
    intro g
    simp only [Progress.muted, List.map_map]
    rfl
  rw [view v.progress, h.progress, ← view]

theorem closings : v.closings = w.closings := by
  have view : ∀ g : Progress ρ, g.stations.map (fun s => (s.component, s.step.onClose)) =
      g.muted.stations.map fun s => (s.component, s.step.onClose) := by
    intro g
    simp only [Progress.muted, List.map_map, Function.comp_def, Station.muted_closing]
  have catalog : v.catalog = w.catalog := by rw [h.same]
  rw [Workflow.closings, Workflow.closings, view, h.progress, ← view, h.source.name,
    h.source.onClose, catalog]

theorem runField : v.runField = w.runField := by
  rw [h.same]
  rfl

theorem report (now : Instant) :
    (v.report? now).map Report.muted = (w.report? now).map Report.muted := by
  have steps : v.summary.steps.map Snapshot.muted = w.summary.steps.map Snapshot.muted :=
    congrArg Summary.steps h.summary
  rw [report?, report?, Option.map_map, Option.map_map]
  rw [show v.config = w.config by rw [h.same]]
  congr 1
  funext fqn
  simp only [Function.comp_apply, Report.muted, steps]
  rw [h.same]

theorem state : v.state = w.state := by rw [h.same]

theorem totals :
    v.summary.totals = { w.summary.totals with warnings := v.summary.totals.warnings } := by
  have same := congrArg Summary.totals h.summary
  rw [Summary.totals_muted, Summary.totals_muted, Counts.mk.injEq] at same
  obtain ⟨scanned, filtered, _, failed⟩ := same
  simp only [← scanned, ← filtered, ← failed]

theorem failureRatio : v.summary.failureRatio = w.summary.failureRatio := by
  rw [← Summary.failureRatio_muted, h.summary, Summary.failureRatio_muted]

theorem raised : v.raiseFromStatus = w.raiseFromStatus := by
  rw [raiseFromStatus_eq, raiseFromStatus_eq, h.state, h.totals]
  rfl

theorem render :
    w.summary.render = w.summary.muted.renderWith w.summary.warningFigures ∧
      v.summary.render = w.summary.muted.renderWith v.summary.warningFigures := by
  refine ⟨w.summary.render_muted, ?_⟩
  rw [v.summary.render_muted, h.summary]

theorem summaryPayload :
    w.summaryPayload = w.payloadWith w.summary.totals.warnings w.summary.render ∧
      v.summaryPayload = w.payloadWith v.summary.totals.warnings v.summary.render := by
  refine ⟨rfl, ?_⟩
  rw [Workflow.summaryPayload, payloadWith, ← h.totals, h.state]
  rw [show v.runId = w.runId by rw [h.same]]

theorem untouched (first : w.Untouched) : v.Untouched := by
  rw [h.same]
  exact ⟨first.executed, first.stopped, first.idle⟩

theorem stop : v.stop.effects = w.stop.effects ∧ w.stop.workflow.UpToWarnings v.stop.workflow := by
  have stopped : v.stopped = w.stopped := by rw [h.same]
  have timer : v.timer = w.timer := by rw [h.same]
  cases running : w.stopped with
  | true =>
    simp only [Workflow.stop, stopped, running, if_true]
    exact ⟨trivial, h⟩
  | false =>
    rw [stop_unstopped w running, stop_unstopped v (stopped.trans running)]
    refine ⟨?_, ?_, h.source, h.progress⟩
    · simp only [stopTimer, stoppedEntry, timer, h.closings, h.runField, h.state]
    · rw [h.same]

end UpToWarnings

section Executing

variable [Record ρ] (now : Instant) {w v : Workflow ρ} (h : w.UpToWarnings v)
  (untouched : w.Untouched)

include h

theorem ran_upToWarnings :
    (v.ran now).result = (w.ran now).result ∧
      (v.ran now).progress.muted = (w.ran now).progress.muted ∧
      Effect.unwarned (v.ran now).effects = Effect.unwarned (w.ran now).effects := by
  rw [ran, ran, show v.runId = w.runId by rw [h.same], show v.timer = w.timer by rw [h.same]]
  cases w.timer.spawnFault with
  | some reason => exact ⟨rfl, h.progress, rfl⟩
  | none => exact run_upToWarnings h.source h.progress _ _

include untouched

theorem settled_upToWarnings : (w.settled now).UpToWarnings (v.settled now) := by
  obtain ⟨result, progress, _⟩ := ran_upToWarnings now h
  have ended := run_untouched now untouched
  have ended' := run_untouched now (h.untouched untouched)
  have run : (w.run now).workflow.UpToWarnings (v.run now).workflow := by
    rw [ended, ended']
    refine ⟨?_, h.source, progress⟩
    rw [h.same]
  -- the verdict is one on the summary without its warnings
  have verdict : (v.run now).workflow.verdict (v.run now).result =
      (w.run now).workflow.verdict (w.run now).result := by
    rw [show (v.run now).result = (w.run now).result by rw [ended, ended', result]]
    cases (w.run now).result with
    | error e => rfl
    | ok _ =>
      rw [Workflow.verdict, Workflow.verdict, ← Summary.state_muted, run.summary,
        Summary.state_muted, show (v.run now).workflow.tolerance = (w.run now).workflow.tolerance by
          rw [run.same]]
  refine ⟨?_, run.source, run.progress⟩
  rw [settled, settled, verdict, run.same]

theorem settling_upToWarnings :
    Effect.unwarned (v.settling now) = Effect.unwarned (w.settling now) := by
  obtain ⟨result, _, effects⟩ := ran_upToWarnings now h
  have launching : v.launching = w.launching := by
    have starting : v.startingEntry = w.startingEntry := by
      rw [startingEntry, startingEntry, h.runField, h.source.name, h.same]
    rw [Workflow.launching, Workflow.launching, starting, h.same]
  have failed : v.failureEntries (w.ran now).result = w.failureEntries (w.ran now).result := by
    cases (w.ran now).result with
    | ok _ => rfl
    | error e => rw [failureEntries, failureEntries, h.runField, h.same]
  rw [settling_eq now untouched, settling_eq now (h.untouched untouched), result, launching, failed]
  simp only [unwarned_append, effects]

end Executing

/-- Two executions that go the same way, and what tells them apart: the warnings that were noted
before the end, and the warnings in what is told about the end. -/
structure Turn.UpToWarnings (now : Instant) (t u : Turn ρ (Except Interruption RunState)) :
    Prop where
  state : u.workflow.state = t.workflow.state
  failureRatio : u.workflow.summary.failureRatio = t.workflow.summary.failureRatio
  raised : u.workflow.raiseFromStatus = t.workflow.raiseFromStatus
  received : u.workflow.progress.stations.map (·.received) =
    t.workflow.progress.stations.map (·.received)
  steps : u.workflow.summary.steps.map Snapshot.muted =
    t.workflow.summary.steps.map Snapshot.muted
  report : (u.workflow.report? now).map Report.muted = (t.workflow.report? now).map Report.muted
  render : u.workflow.summary.render =
      t.workflow.summary.muted.renderWith u.workflow.summary.warningFigures ∧
    t.workflow.summary.render =
      t.workflow.summary.muted.renderWith t.workflow.summary.warningFigures
  payload : u.workflow.summaryPayload = t.workflow.payloadWith u.workflow.summary.totals.warnings
      u.workflow.summary.render ∧
    t.workflow.summaryPayload = t.workflow.payloadWith t.workflow.summary.totals.warnings
      t.workflow.summary.render
  /-- What is told may be lost in a panic of the event sink or of the reporter, which hear of the
  warnings. -/
  ends : ∃ before before' after after',
    t.effects = before ++ (t.workflow.announce now).effects ++ after ∧
      u.effects = before' ++ (u.workflow.announce now).effects ++ after' ∧
      Effect.unwarned before' = Effect.unwarned before ∧
      ((∃ p, t.workflow.Lost now p ∧ t.result = .error (.panic p)) ∨
        (∃ p, u.workflow.Lost now p ∧ u.result = .error (.panic p)) ∨
        u.result = t.result ∧ after' = after)

section Ending

variable [Record ρ] (now : Instant) {w v : Workflow ρ}

theorem execute_settles (untouched : w.Untouched) :
    ∃ stopped timer after,
      (w.execute now).workflow = { w.settled now with
        stopped := stopped
        timer := timer } ∧
      (w.execute now).effects =
        w.settling now ++ ((w.settled now).announce now).effects ++ after ∧
      ((∃ p, (w.settled now).Lost now p ∧ (w.execute now).result = .error (.panic p)) ∨
        (w.execute now).result =
            ((w.ran now).result.map fun _ => (w.settled now).state).mapError .error ∧
          after = (w.settled now).stop.effects) := by
  rcases execute_cases now untouched with ⟨_, returned⟩ | ⟨p, lost, _, left⟩
  · obtain ⟨stopped, timer, stop⟩ : ∃ stopped timer, (w.settled now).stop.workflow =
        { w.settled now with
          stopped := stopped
          timer := timer } := by
      unfold Workflow.stop
      split <;> exact ⟨_, _, rfl⟩
    rw [returned]
    exact ⟨stopped, timer, _, stop, rfl, .inr ⟨rfl, rfl⟩⟩
  · rw [left]
    exact ⟨_, _, [], rfl, (List.append_nil _).symm, .inl ⟨p, lost, rfl⟩⟩

end Ending

/-- Two built workflows whose pipelines differ only in the warnings of their components go the same
way: what the components get, what comes of it, the verdict and the result. -/
theorem execute_upToWarnings [Record ρ] {host : Host} {plan : Plan}
    {builder other : PipelineBuilder ρ} {w v : Workflow ρ}
    (built : (build host plan builder).result = .ok w)
    (built' : (build host plan other).result = .ok v)
    (pipelines : ∀ p q, plan.Assembles builder p → plan.Assembles other q → p.UpToWarnings q)
    (now : Instant) : (w.execute now).UpToWarnings now (v.execute now) := by
  have untouched := built_untouched built
  have first := built_upToWarnings built built' pipelines
  have settled := settled_upToWarnings now first untouched
  have ran := (ran_upToWarnings now first).1
  obtain ⟨_, _, after, workflow, effects, ends⟩ := execute_settles now untouched
  obtain ⟨_, _, after', workflow', effects', ends'⟩ :=
    execute_settles now (built_untouched built')
  constructor
  case state => rw [workflow, workflow', settled.state]
  case received => rw [workflow, workflow', settled.received]
  case failureRatio =>
    rw [workflow, workflow']
    exact settled.failureRatio
  case raised =>
    rw [workflow, workflow']
    exact settled.raised
  case steps =>
    rw [workflow, workflow']
    exact congrArg Summary.steps settled.summary
  case report =>
    rw [workflow, workflow']
    exact settled.report now
  case render =>
    rw [workflow, workflow']
    exact settled.render.symm
  case payload =>
    rw [workflow, workflow']
    exact settled.summaryPayload.symm
  case ends =>
    refine ⟨_, _, after, after', ?_, ?_, settling_upToWarnings now first untouched, ?_⟩
    · rw [effects, workflow]
      rfl
    · rw [effects', workflow']
      rfl
    -- reporter and event sink hear of the warnings, so a panic may come in one run only
    rcases ends with ⟨p, lost, panicked⟩ | ⟨returned, closed⟩
    · rw [workflow]
      exact .inl ⟨p, lost, panicked⟩
    rcases ends' with ⟨p, lost, panicked⟩ | ⟨returned', closed'⟩
    · rw [workflow']
      exact .inr (.inl ⟨p, lost, panicked⟩)
    · rw [returned, returned', closed, closed', ran, settled.state, settled.stop.1]
      exact .inr (.inr ⟨rfl, rfl⟩)

/-- Every component has something to say: the source before an item and at its end, the processor
about a record that it then fails on, and the bulk sink. -/
def chattyPipeline : Pipeline String where
  source := Scripted.source "crm" [.warning "a" "late", .item (.record "a"), .item (.record "b"),
    .warning "crm" "short"] .done
  steps :=
    [.record .processor ((Scripted.Script.mk [.warn "odd" (.fail (.ofMessage "bad row"))] []
      (.stage true)).step "clean" .done),
      .bulk (Scripted.bulkSink "publish" [.note (.warning "b" "slow"), .scanStaged] .done)]

def curtPipeline : Pipeline String where
  source := Scripted.source "crm" [.item (.record "a"), .item (.record "b")] .done
  steps :=
    [.record .processor ((Scripted.Script.mk [.fail (.ofMessage "bad row")] []
      (.stage true)).step "clean" .done),
      .bulk (Scripted.bulkSink "publish" [.scanStaged] .done)]

theorem chatty_upToWarnings : chattyPipeline.UpToWarnings curtPipeline := by
  refine ⟨⟨rfl, rfl, ?_⟩, ?_⟩
  · intro n
    match n with
    | 0 => rfl
    | 1 => rfl
    | 2 => rfl
    | _ + 3 => rfl
  · have processor : ∀ (earlier : List String) (r : String),
        (((Scripted.Script.mk [.fail (.ofMessage "bad row")] [] (.stage true)).step "clean"
          .done).react earlier r).muted =
        (((Scripted.Script.mk [.warn "odd" (.fail (.ofMessage "bad row"))] []
          (.stage true)).step "clean" .done).react earlier r).muted := by
      intro earlier r
      cases earlier <;> rfl
    have react := funext fun earlier => funext fun r => processor earlier r
    simp only [chattyPipeline, curtPipeline, List.map_cons, List.map_nil, Step.muted,
      RecordStep.muted, react]
    rfl

theorem execute_upToWarnings_chatty :
    let t := (deployed chattyPipeline).execute .epoch
    let u := (deployed curtPipeline).execute .epoch
    t.workflow.summary.totals.warnings = 4 ∧ u.workflow.summary.totals.warnings = 0 ∧
      t.UpToWarnings .epoch u ∧ u.result = t.result ∧ u.workflow.state = t.workflow.state := by
  intro t u
  have turn : t.UpToWarnings .epoch u :=
    execute_upToWarnings (deployed_built chattyPipeline) (deployed_built curtPipeline) (by
      rintro p q ⟨_, _, _, made⟩ ⟨_, _, _, made'⟩
      cases made
      cases made'
      exact chatty_upToWarnings) .epoch
  refine ⟨rfl, rfl, turn, ?_, turn.state⟩
  obtain ⟨_, _, _, _, _, _, _, lost | lost | ⟨same, _⟩⟩ := turn.ends
  · obtain ⟨p, taking | ⟨r, _, panicked⟩, _⟩ := lost
    · cases taking
    · cases panicked
  · obtain ⟨p, taking | ⟨r, _, panicked⟩, _⟩ := lost
    · cases taking
    · cases panicked
  · exact same

end Workflow

end Intake
