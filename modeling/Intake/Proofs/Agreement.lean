import Intake.Proofs.Lifecycle
import Intake.Proofs.Members
import Intake.Scripted.Step

/-!
All views of a finished run agree. The state, the summary, the event, the report and the error that
the status raises are taken at different moments, and they tell the same.
-/
namespace Intake

variable {ρ : Type}

theorem reportsIn_append (a b : List Effect) : reportsIn (a ++ b) = reportsIn a ++ reportsIn b :=
  List.filterMap_append

theorem eventsIn_append (a b : List Effect) : eventsIn (a ++ b) = eventsIn a ++ eventsIn b :=
  List.filterMap_append

theorem reportsIn_reported (reports : List Report) :
    reportsIn (reports.map .reported) = reports ∧ eventsIn (reports.map .reported) = [] := by
  induction reports with
  | nil => exact ⟨rfl, rfl⟩
  | cons r rest ih => exact ⟨congrArg (r :: ·) ih.1, ih.2⟩

theorem resolve_frame (catalog : Catalog) (source : Config.Source) (kind : ServiceKind) :
    let r := resolve catalog source kind
    r.source = { source with connection := r.source.connection } ∧
      ∀ e ∈ r.effects, e.isLog = true ∨ e = .lookedUp kind source.serviceName := by
  intro r
  simp only [r, resolve]
  split
  · simp [Effect.isLog]
  · split
    · simp [Effect.isLog]
    · split
      · simp [Effect.isLog]
      · split <;> simp [Effect.isLog]

theorem resolve_tells (catalog : Catalog) (source : Config.Source) (service : ServiceKind) :
    reportsIn (resolve catalog source service).effects = [] ∧
      eventsIn (resolve catalog source service).effects = [] := by
  have looks := (resolve_frame catalog source service).2
  constructor <;>
  · refine List.filterMap_eq_nil_iff.mpr fun e member => ?_
    rcases looks e member with log | rfl
    · obtain ⟨_, rfl⟩ := Effect.eq_logged log
      rfl
    · rfl

namespace Workflow

section Reporting

variable (now : Instant) (w : Workflow ρ)

theorem report_ended (r : Report) (made : w.report? now = some r) :
    r.endedAt.isSome = r.state.isTerminal := by
  obtain ⟨fqn, _, rfl⟩ := Option.map_eq_some_iff.mp made
  cases w.state <;> rfl

theorem sendReport_tells :
    reportsIn (w.sendReport now).effects = (w.report? now).toList ∧
      eventsIn (w.sendReport now).effects = [] := by
  obtain ⟨logs, effects, _⟩ := sendReport_cases now w
  have told := reportsIn_reported (w.report? now).toList
  have logged := logs_inner logs
  constructor
  · rw [effects, reportsIn_append, logged.reports, told.1, List.append_nil]
  · rw [effects, eventsIn_append, logged.events, told.2, List.append_nil]

theorem announce_events :
    eventsIn (w.announce now).effects = [(summaryEvent, some w.summaryPayload)] := by
  obtain ⟨logs, reports, effects, _⟩ := announce_cases now w
  have taken := (logs_inner (w.events.entries summaryEvent (some w.summaryPayload))).events
  have rest : eventsIn ((w.events.entries summaryEvent (some w.summaryPayload)).map .logged ++
      reports.map .reported) = [] := by
    rw [eventsIn_append, taken, (reportsIn_reported _).2, List.append_nil]
  rw [effects, eventsIn_append, (logs_inner logs).events, List.append_nil]
  exact congrArg (_ :: ·) rest

/-- The end is reported once, unless the event sink has panicked. -/
theorem announce_reports :
    reportsIn (w.announce now).effects = (w.report? now).toList ∨
      reportsIn (w.announce now).effects = [] ∧
        ∃ p, w.events.panics summaryEvent (some w.summaryPayload) = some p ∧
          (w.announce now).result = .error (.panic p) := by
  obtain ⟨logs, reports, effects, ends⟩ := announce_cases now w
  have taken := (logs_inner (w.events.entries summaryEvent (some w.summaryPayload))).reports
  have told : reportsIn (w.announce now).effects = reports := by
    rw [effects, reportsIn_append, (logs_inner logs).reports, List.append_nil]
    have rest : reportsIn ((w.events.entries summaryEvent (some w.summaryPayload)).map .logged ++
        reports.map .reported) = reports := by
      rw [reportsIn_append, taken, (reportsIn_reported _).1, List.nil_append]
    exact rest
  rcases ends with ⟨p, taking, rfl, panicked⟩ | ⟨_, rfl, _⟩
  · exact .inr ⟨told, p, taking, panicked⟩
  · exact .inl told

end Reporting

theorem stop_views (now : Instant) (w : Workflow ρ) :
    w.stop.workflow.state = w.state ∧ w.stop.workflow.summary = w.summary ∧
      w.stop.workflow.summaryPayload = w.summaryPayload ∧
      w.stop.workflow.report? now = w.report? now := by
  unfold stop
  split <;> exact ⟨rfl, rfl, rfl, rfl⟩

theorem stop_tells (w : Workflow ρ) :
    reportsIn w.stop.effects = [] ∧ eventsIn w.stop.effects = [] := by
  constructor <;>
  · refine List.filterMap_eq_nil_iff.mpr fun e member => ?_
    rcases stop_does w e member with ⟨_, rfl⟩ | rfl | ⟨_, _, rfl⟩ <;> rfl

theorem summaryPayload_members (w : Workflow ρ) :
    w.summaryPayload.get? "state" = some (.text w.state.text) ∧
      w.summaryPayload.get? "totals" = some w.summary.totals.toJson.normal := by
  rw [summaryPayload, Json.get?_normal, Json.get?_normal]
  exact ⟨rfl, rfl⟩

theorem raiseFromStatus_eq (w : Workflow ρ) :
    w.raiseFromStatus =
      if w.state = .failed then
        .error (.executionFailed .failed w.summary.totals.failed w.summary.totals.processed)
      else .ok () := by
  cases state : w.state <;> simp [raiseFromStatus, state]

section Executing

variable [Record ρ] (now : Instant) {w : Workflow ρ} (untouched : w.Untouched)

include untouched

theorem settling_tells :
    reportsIn (w.settling now) = [] ∧ eventsIn (w.settling now) = [] := by
  obtain ⟨rest, inner, ⟨settling, _⟩ | ⟨settling, _⟩⟩ := settling_inner now untouched <;>
  · rw [settling]
    exact ⟨inner.reports, inner.events⟩

theorem execute_views :
    let t := w.execute now
    let final := w.settled now
    (t.workflow.state = final.state ∧ t.workflow.summary = final.summary ∧
        t.workflow.summaryPayload = final.summaryPayload ∧
        t.workflow.report? now = final.report? now) ∧
      eventsIn t.effects = [(summaryEvent, some final.summaryPayload)] ∧
      (reportsIn t.effects = (final.report? now).toList ∨
        reportsIn t.effects = [] ∧
          ∃ p, final.events.panics summaryEvent (some final.summaryPayload) = some p ∧
            t.result = .error (.panic p)) := by
  intro t final
  obtain ⟨quietReports, quietEvents⟩ := settling_tells now untouched
  have events := announce_events now final
  -- either the stop comes last, and it tells nobody, or a panic cuts the announcement short
  rcases execute_cases now untouched with ⟨told, returned⟩ | ⟨p, _, thrown, left⟩
  · have same : t = _ := returned
    obtain ⟨stopReports, stopEvents⟩ := stop_tells final
    rw [same]
    refine ⟨stop_views now final, ?_, .inl ?_⟩
    · rw [eventsIn_append, eventsIn_append, quietEvents, events, stopEvents]
      rfl
    · rcases announce_reports now final with reports | ⟨_, p, _, panicked⟩
      · rw [reportsIn_append, reportsIn_append, quietReports, reports, stopReports]
        exact List.append_nil _
      · rw [told] at panicked
        cases panicked
  · have same : t = _ := left
    rw [same]
    refine ⟨⟨rfl, rfl, rfl, rfl⟩, ?_, ?_⟩
    · rw [eventsIn_append, quietEvents, events]
      rfl
    · rw [reportsIn_append, quietReports]
      rcases announce_reports now final with reports | ⟨none, q, taking, panicked⟩
      · exact .inl reports
      · rw [panicked] at thrown
        cases thrown
        exact .inr ⟨none, p, taking, rfl⟩

theorem execute_result :
    (∃ p, (w.execute now).result = .error (.panic p)) ∨
      ((w.execute now).result = .ok (w.settled now).state ∧
        (w.settled now).summary.state w.tolerance = (w.settled now).state) ∨
      ∃ e, (w.execute now).result = .error (.error e) ∧ (w.settled now).state = .failed := by
  have settles := settled_state now untouched
  rcases execute_answer now untouched with ⟨p, _, panicked⟩ | answer
  · exact .inl ⟨p, panicked⟩
  · rw [answer]
    refine .inr ?_
    cases ended : (w.ran now).result with
    | ok _ =>
      rw [ended] at settles
      exact .inl ⟨rfl, settles.symm⟩
    | error e =>
      rw [ended] at settles
      exact .inr ⟨e, rfl, settles⟩

theorem settled_terminal : (w.settled now).state.isTerminal = true := by
  rw [settled_state now untouched]
  cases (w.ran now).result with
  | error e => rfl
  | ok _ =>
    simp only [Summary.state, Tolerance.evaluate]
    split
    · rfl
    · split <;> rfl

theorem execute_reports (deployed : w.config.pipelineFqn.isSome)
    (returned : ∀ p, (w.execute now).result ≠ .error (.panic p)) :
    let t := w.execute now
    ∃ r, reportsIn t.effects = [r] ∧ r.state = t.workflow.state ∧ r.endedAt.isSome ∧
      r.steps = t.workflow.summary.steps := by
  intro t
  obtain ⟨⟨state, summary, _, _⟩, _, reports⟩ := execute_views now untouched
  have final := settled_terminal now untouched
  have config : (w.settled now).config = w.config := by rw [settled_eq now untouched]
  obtain ⟨name, named⟩ := Option.isSome_iff_exists.mp deployed
  obtain ⟨r, made⟩ : ∃ r, (w.settled now).report? now = some r :=
    ⟨_, by rw [report?, config, named]; rfl⟩
  obtain ⟨_, _, same⟩ := Option.map_eq_some_iff.mp made
  rcases reports with told | ⟨_, p, _, panicked⟩
  · refine ⟨r, ?_, ?_, ?_, ?_⟩
    · rw [told, made]
      rfl
    · rw [state, ← same]
    · rw [report_ended now _ r made, ← same]
      exact final
    · rw [summary, ← same]
  · exact absurd panicked (returned p)

end Executing

theorem bulkSinkWarning_logs (runId : Uuid) (pipeline : Pipeline ρ) :
    ∀ e ∈ bulkSinkWarning runId pipeline, e.isLog = true := by
  unfold bulkSinkWarning
  dsimp only
  split <;> simp [Effect.isLog]

theorem started_tells (now : Instant) (service : ServiceKind) (pipeline : Pipeline ρ)
    (w : Workflow ρ) :
    let last := bulkSinkWarning w.runId pipeline ++
      .logged (createdEntry service w) :: (w.sendReport now).effects
    (∀ e ∈ last, e.isLog = true ∨ ∃ r, e = .reported r) ∧
      reportsIn last = (w.report? now).toList ∧ eventsIn last = [] := by
  intro last
  have warned : ∀ e ∈ bulkSinkWarning w.runId pipeline, e.isLog = true :=
    bulkSinkWarning_logs w.runId pipeline
  have aside : ∀ e ∈ last, e.isLog = true ∨ ∃ r, e = .reported r := by
    intro e member
    rcases List.mem_append.mp member with warning | told
    · exact .inl (warned e warning)
    rcases List.mem_cons.mp told with rfl | told
    · exact .inl rfl
    obtain ⟨logs, sent, _⟩ := sendReport_cases now w
    rw [sent] at told
    rcases List.mem_append.mp told with reported | logged
    · obtain ⟨r, _, rfl⟩ := List.mem_map.mp reported
      exact .inr ⟨r, rfl⟩
    · obtain ⟨entry, _, rfl⟩ := List.mem_map.mp logged
      exact .inl rfl
  refine ⟨aside, ?_, ?_⟩
  · have silent : reportsIn (bulkSinkWarning w.runId pipeline) = [] := by
      refine List.filterMap_eq_nil_iff.mpr fun e member => ?_
      obtain ⟨_, rfl⟩ := Effect.eq_logged (warned e member)
      rfl
    rw [reportsIn_append, silent]
    exact (sendReport_tells now w).1
  · refine List.filterMap_eq_nil_iff.mpr fun e member => ?_
    rcases aside e member with log | ⟨_, rfl⟩
    · obtain ⟨_, rfl⟩ := Effect.eq_logged log
      rfl
    · rfl

theorem build_tells {host : Host} {plan : Plan} {builder : PipelineBuilder ρ} {w : Workflow ρ}
    (built : (build host plan builder).result = .ok w) :
    ∃ config service, plan.prepare.result = .ok (config, service) ∧
      reportsIn (build host plan builder).effects =
        reportsIn (builder config).effects ++ (w.report? host.now).toList ∧
      eventsIn (build host plan builder).effects = eventsIn (builder config).effects := by
  obtain ⟨config, service, pipeline, timer, prepared, _, _, _, effects⟩ := build_ok built
  have quiet : reportsIn plan.prepare.effects = [] ∧ eventsIn plan.prepare.effects = [] := by
    rw [(Plan.prepare_ok prepared).2]
    exact resolve_tells _ _ _
  obtain ⟨_, started, silent⟩ := started_tells host.now service pipeline w
  have reports : ∀ rest, reportsIn (.assembling :: rest) = reportsIn rest := fun _ => rfl
  have events : ∀ rest, eventsIn (.assembling :: rest) = eventsIn rest := fun _ => rfl
  refine ⟨config, service, prepared, ?_, ?_⟩
  · rw [effects, reportsIn_append, quiet.1, List.nil_append, reports, reportsIn_append, started]
  · rw [effects, eventsIn_append, quiet.2, List.nil_append, events, eventsIn_append, silent,
      List.append_nil]

theorem build_reports {host : Host} {plan : Plan} {builder : PipelineBuilder ρ} {w : Workflow ρ}
    (built : (build host plan builder).result = .ok w) :
    ∃ config, reportsIn (build host plan builder).effects =
      reportsIn (builder config).effects ++ (w.report? host.now).toList := by
  obtain ⟨config, _, _, reports, _⟩ := build_tells built
  exact ⟨config, reports⟩

/-- All views of a workflow that has been executed, the last report of the trace among them. -/
structure Agrees (tolerance : Tolerance) (fqn : Option String) (trace : List Effect)
    (t : Turn ρ (Except Interruption RunState)) : Prop where
  returned : ∀ s, t.result = .ok s →
    t.workflow.state = s ∧ t.workflow.summary.state tolerance = s
  failed : ∀ e, t.result = .error (.error e) → t.workflow.state = .failed
  event : ∃ payload, eventsIn t.effects = [(summaryEvent, some payload)] ∧
    payload.get? "state" = some (.text t.workflow.state.text) ∧
    payload.get? "totals" = some t.workflow.summary.totals.toJson.normal
  report : fqn.isSome → (∀ p, t.result ≠ .error (.panic p)) →
    ∃ r, (reportsIn trace).getLast? = some r ∧ r.state = t.workflow.state ∧
      r.endedAt.isSome ∧ r.steps = t.workflow.summary.steps
  raised : t.workflow.raiseFromStatus =
    if t.workflow.state = .failed then
      .error (.executionFailed .failed t.workflow.summary.totals.failed
        t.workflow.summary.totals.processed)
    else .ok ()

/-- However the run has ended. A report that the builder of the steps has made itself is none of the
workflow's. -/
theorem execute_agrees [Record ρ] {host : Host} {plan : Plan} {builder : PipelineBuilder ρ}
    {w : Workflow ρ} (built : (build host plan builder).result = .ok w) (now : Instant) :
    let t := w.execute now
    let trace := (build host plan builder).effects ++ t.effects
    Agrees plan.config.tolerance plan.config.pipelineFqn trace t ∧
      ∀ r ∈ reportsIn trace, (∃ config, r ∈ reportsIn (builder config).effects) ∨
        r.endedAt.isSome = r.state.isTerminal := by
  intro t trace
  have untouched := built_untouched built
  obtain ⟨config, service, pipeline, timer, prepared, _, _, fresh, _⟩ := build_ok built
  obtain ⟨filled, _⟩ := Plan.prepare_ok prepared
  obtain ⟨maker, first⟩ := build_reports built
  obtain ⟨⟨state, summary, payload, report⟩, events, reports⟩ := execute_views now untouched
  have result := execute_result now untouched
  have tolerance : w.tolerance = plan.config.tolerance := by
    rw [fresh, filled]
    rfl
  have fqn : w.config.pipelineFqn = plan.config.pipelineFqn := by
    rw [fresh, filled]
    rfl
  refine ⟨⟨?_, ?_, ?_, ?_, raiseFromStatus_eq _⟩, ?_⟩
  · intro s ok
    rcases result with ⟨p, panicked⟩ | ⟨settled, tolerated⟩ | ⟨e, failed, _⟩
    · cases panicked.symm.trans ok
    · cases settled.symm.trans ok
      exact ⟨state, by rw [summary, ← tolerance, tolerated]⟩
    · cases failed.symm.trans ok
  · intro e failed
    rcases result with ⟨p, panicked⟩ | ⟨settled, _⟩ | ⟨_, _, settled⟩
    · cases panicked.symm.trans failed
    · cases settled.symm.trans failed
    · rw [state, settled]
  · obtain ⟨shown, totals⟩ := (w.settled now).summaryPayload_members
    refine ⟨_, events, ?_, ?_⟩
    · rw [state, shown]
    · rw [summary, totals]
  · intro deployed returned
    rw [← fqn] at deployed
    obtain ⟨r, told, views⟩ := execute_reports now untouched deployed returned
    refine ⟨r, ?_, views⟩
    rw [reportsIn_append, told]
    exact List.getLast?_concat
  · intro r member
    rw [reportsIn_append, first, List.mem_append, List.mem_append, Option.mem_toList] at member
    -- reports of the builder of the steps, the first one of the workflow, and the last one
    rcases member with (made | early) | late
    · exact .inl ⟨maker, made⟩
    · exact .inr (report_ended host.now w r early)
    · rcases reports with told | ⟨none, _⟩
      · rw [told, Option.mem_toList] at late
        exact .inr (report_ended now _ r late)
      · rw [none] at late
        cases late

/-- A source breaks off after a record that has passed; the counters alone would mean success. -/
def brokenPipeline : Pipeline String where
  source := ⟨"crm", [⟨[], .ok (.record "a")⟩], .failed (.ofMessage "lost"), .done⟩
  steps := [.record .sink ((Scripted.Script.mk [] [] .consume).step "load" .done)]

theorem execute_agrees_broken :
    let t := (deployed brokenPipeline).execute .epoch
    let built := build ⟨.epoch, ⟨0⟩, none⟩ deployedPlan (Prebuilt.ofPipeline brokenPipeline).builder
    t.workflow.state = .failed ∧ t.workflow.summary.totals = ⟨2, 0, 0, 0⟩ ∧
      t.workflow.raiseFromStatus = .error (.executionFailed .failed 0 2) ∧
      ∃ r, (reportsIn (built.effects ++ t.effects)).getLast? = some r ∧ r.state = .failed := by
  intro t built
  obtain ⟨agrees, _⟩ := execute_agrees (deployed_built brokenPipeline) .epoch
  have state : t.workflow.state = .failed := agrees.failed _ rfl
  refine ⟨state, rfl, ?_, ?_⟩
  · rw [agrees.raised, if_pos state]
    rfl
  · have returned : ∀ p, t.result ≠ .error (.panic p) := by
      intro p panicked
      cases panicked
    obtain ⟨r, last, reported, _⟩ := agrees.report rfl returned
    exact ⟨r, last, reported.trans state⟩

end Workflow

end Intake
