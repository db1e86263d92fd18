import Intake.Proofs.Agreement
import Intake.Proofs.Ledger
import Intake.Proofs.Percent

/-!
Building is staged: the configuration, the kind of service, the connection, the pipeline, the timer.
The first stage that fails decides what is returned, and leaves nothing behind that a later stage
would have done. What comes out of all of them is a workflow that has not begun.
-/
namespace Intake

namespace Plan

def configured (p : Plan) (kind : ServiceKind) : Config :=
  { p.config with
    source := { p.config.source with connection := (p.resolved kind).source.connection } }

structure Connects (p : Plan) (kind : ServiceKind) : Prop extends p.Admits kind where
  found : ∃ how, (p.resolved kind).result = .ok how

def AsksForZero (p : Plan) : Prop := ∃ d, p.interval = some d ∧ d.isZero = true

theorem configured_eq (p : Plan) (kind : ServiceKind) :
    p.configured kind = { p.config with source := (p.resolved kind).source } := by
  have source : (p.resolved kind).source = _ := (resolve_frame p.catalog p.config.source kind).1
  exact congrArg (fun s => { p.config with source := s }) source.symm

end Plan

namespace Workflow

variable {ρ : Type}

section Starting

variable {host : Host} {plan : Plan} {kind : ServiceKind}

theorem timerOf_zero (asks : plan.AsksForZero) (config : Config) :
    timerOf host plan config = .error (.zeroInterval (plan.kind.text ++ "-progress")) := by
  obtain ⟨d, interval, zero⟩ := asks
  simp [timerOf, Timer.create, Plan.reportInterval, interval, zero]

theorem timerOf_positive (admits : plan.Admits kind) (positive : ¬ plan.AsksForZero) :
    ∃ timer, timerOf host plan (plan.configured kind) = .ok timer := by
  have nonzero : (plan.reportInterval (plan.configured kind)).isZero = false := by
    rw [Plan.reportInterval]
    cases interval : plan.interval with
    | none => exact Config.reportInterval_positive admits.valid
    | some d => exact Bool.eq_false_iff.mpr fun zero => positive ⟨d, interval, zero⟩
  exact ⟨_, by rw [timerOf, Timer.create, nonzero]; rfl⟩

end Starting

structure Begun (host : Host) (plan : Plan) (config : Config) (pipeline : Pipeline ρ)
    (w : Workflow ρ) : Prop where
  config : w.config = config
  state : w.state = .running
  runId : w.runId = plan.config.runId.getD host.freshId
  source : w.source = pipeline.source
  steps : w.progress.stations.map (·.step) = pipeline.steps
  blank : ∀ s ∈ w.progress.statuses, s.ledger = .blank
  unfed : ∀ t ∈ w.progress.stations, t.received = []
  untouched : w.Untouched
  tolerance : w.tolerance.percent = plan.config.settings.failureTolerance

theorem fresh_begun {host : Host} {plan : Plan} {kind : ServiceKind} (admits : plan.Admits kind)
    (pipeline : Pipeline ρ) {timer : Timer}
    (timed : timerOf host plan (plan.configured kind) = .ok timer) :
    Begun host plan (plan.configured kind) pipeline
      (fresh host plan (plan.configured kind) pipeline timer) where
  config := rfl
  state := rfl
  runId := rfl
  source := rfl
  steps := startAll_steps host.now pipeline.steps
  blank := by
    refine List.forall_mem_cons.mpr ⟨rfl, List.forall_mem_map.mpr ?_⟩
    intro t member
    obtain ⟨i, inside, rfl⟩ := List.mem_mapIdx.mp member
    rfl
  unfed := by
    intro t member
    obtain ⟨i, inside, rfl⟩ := List.mem_mapIdx.mp member
    rfl
  untouched := ⟨rfl, rfl, congrArg Timer.phase (Timer.create_ok timed)⟩
  tolerance := Config.tolerance_percent admits.valid

def firstReport (plan : Plan) (w : Workflow ρ) : Option Report :=
  plan.config.pipelineFqn.map fun fqn =>
    ⟨w.runId, fqn, plan.kind, .running, w.startedAt, none, w.summary.steps⟩

section Building

variable (host : Host) {plan : Plan} {kind : ServiceKind} {builder : PipelineBuilder ρ}

theorem build_unprepared {i : Interruption} (stuck : plan.prepare.result = .error i) :
    build host plan builder = ⟨.error i, plan.prepare.effects⟩ :=
  Traced.bind_of_error stuck

theorem build_connected (connects : plan.Connects kind) :
    let t := builder (plan.configured kind) >>= start host plan (plan.configured kind) kind
    build host plan builder =
      ⟨t.result, (plan.resolved kind).effects ++ .assembling :: t.effects⟩ := by
  obtain ⟨how, found⟩ := connects.found
  have prepared := connects.toAdmits.prepare
  rw [found, ← Plan.configured_eq] at prepared
  rw [build, Traced.bind_of_ok (a := (plan.configured kind, kind)) (by rw [prepared]; rfl)]
  simp only [prepared]
  rw [Traced.bind_of_ok rfl]
  rfl

/-- What a workflow has been created with, and what has been done on the way. -/
structure Created (host : Host) (plan : Plan) (builder : PipelineBuilder ρ) (kind : ServiceKind)
    (w : Workflow ρ) : Prop where
  begun : ∃ p, (builder (plan.configured kind)).result = .ok p ∧
    Begun host plan (plan.configured kind) p w
  effects : ∃ last, (build host plan builder).effects =
      (plan.resolved kind).effects ++
        .assembling :: ((builder (plan.configured kind)).effects ++ last) ∧
    (∀ e ∈ last, e.isLog = true ∨ ∃ r, e = .reported r) ∧
    reportsIn last = (firstReport plan w).toList

theorem build_created {p : Pipeline ρ} (connects : plan.Connects kind)
    (made : (builder (plan.configured kind)).result = .ok p) (positive : ¬ plan.AsksForZero) :
    ∃ w, Created host plan builder kind w ∧
      ((build host plan builder).result = .ok w ∨
        ∃ r q, firstReport plan w = some r ∧ plan.reporter.answer r = .panicked q ∧
          (build host plan builder).result = .error (.panic q)) := by
  obtain ⟨timer, timed⟩ := timerOf_positive connects.toAdmits positive
  let w : Workflow ρ := fresh host plan (plan.configured kind) p timer
  have begun : Begun host plan (plan.configured kind) p w := fresh_begun connects.toAdmits p timed
  have first : w.report? host.now = firstReport plan w := rfl
  have built : build host plan builder = _ := build_connected host connects
  rw [Traced.bind_of_ok made, start_timed timed] at built
  obtain ⟨aside, reports, _⟩ := started_tells host.now kind p w
  rw [first] at reports
  refine ⟨w, ⟨⟨p, made, begun⟩, _, congrArg Traced.effects built, aside, reports⟩, ?_⟩
  rw [built]
  obtain ⟨_, _, ok | ⟨r, q, report, panicked, thrown⟩⟩ := sendReport_cases host.now w
  · exact .inl (by rw [ok]; rfl)
  · exact .inr ⟨r, q, first ▸ report, panicked, by rw [thrown]; rfl⟩

/-- What building comes to, stage by stage, for a builder of which nothing is known. -/
structure Staged (host : Host) (plan : Plan) (builder : PipelineBuilder ρ) : Prop where
  invalid : ∀ e, plan.config.validate = .error e →
    build host plan builder = ⟨.error (.error e), []⟩
  unknown : plan.config.validate = .ok () →
    ServiceKind.ofSourceType? plan.config.source.sourceType = none →
    build host plan builder =
      ⟨.error (.error (.unknownSourceType plan.config.source.sourceType)), []⟩
  unconnected : ∀ kind e, plan.Admits kind → (plan.resolved kind).result = .error e →
    build host plan builder = ⟨.error (.error e), (plan.resolved kind).effects⟩
  searching : ∀ kind, ∀ e ∈ (plan.resolved kind).effects,
    e.isLog = true ∨ e = .lookedUp kind plan.config.source.serviceName
  /-- The builder is asked about the completed configuration and about nothing else. -/
  asked : ∀ other : PipelineBuilder ρ,
    (∀ kind, plan.Connects kind → other (plan.configured kind) = builder (plan.configured kind)) →
    build host plan other = build host plan builder
  unmade : ∀ kind i, plan.Connects kind → (builder (plan.configured kind)).result = .error i →
    build host plan builder =
      ⟨.error i, (plan.resolved kind).effects ++
        .assembling :: (builder (plan.configured kind)).effects⟩
  untimed : ∀ kind p, plan.Connects kind → (builder (plan.configured kind)).result = .ok p →
    plan.AsksForZero →
    ∃ logs, (∀ e ∈ logs, e.isLog = true) ∧ build host plan builder =
      ⟨.error (.error (.timer (.zeroInterval (plan.kind.text ++ "-progress")))),
        (plan.resolved kind).effects ++
          .assembling :: ((builder (plan.configured kind)).effects ++ logs)⟩
  created : ∀ kind p, plan.Connects kind → (builder (plan.configured kind)).result = .ok p →
    ¬ plan.AsksForZero →
    ∃ w, Created host plan builder kind w ∧
      ((build host plan builder).result = .ok w ∨
        ∃ r q, firstReport plan w = some r ∧ plan.reporter.answer r = .panicked q ∧
          (build host plan builder).result = .error (.panic q))
  built : ∀ w, (build host plan builder).result = .ok w →
    ¬ plan.AsksForZero ∧ ∃ kind, plan.Connects kind ∧ Created host plan builder kind w

section Stages

variable {e : WorkflowError}

theorem build_invalid (invalid : plan.config.validate = .error e) :
    build host plan builder = ⟨.error (.error e), []⟩ := by
  have stuck := Plan.prepare_invalid invalid
  rw [build_unprepared host (i := .error e) (by rw [stuck]), stuck]

theorem build_unknown (valid : plan.config.validate = .ok ())
    (unknown : ServiceKind.ofSourceType? plan.config.source.sourceType = none) :
    build host plan builder =
      ⟨.error (.error (.unknownSourceType plan.config.source.sourceType)), []⟩ := by
  have stuck := Plan.prepare_unknown valid unknown
  rw [build_unprepared host (by rw [stuck]), stuck]

theorem build_unconnected (admits : plan.Admits kind)
    (missing : (plan.resolved kind).result = .error e) :
    build host plan builder = ⟨.error (.error e), (plan.resolved kind).effects⟩ := by
  have stuck := admits.prepare
  rw [missing] at stuck
  rw [build_unprepared host (i := .error e) (by rw [stuck]; rfl), stuck]

theorem build_unmade {i : Interruption} (connects : plan.Connects kind)
    (unmade : (builder (plan.configured kind)).result = .error i) :
    build host plan builder =
      ⟨.error i, (plan.resolved kind).effects ++
        .assembling :: (builder (plan.configured kind)).effects⟩ := by
  rw [build_connected host connects, Traced.bind_of_error unmade]

theorem build_untimed {p : Pipeline ρ} (connects : plan.Connects kind)
    (made : (builder (plan.configured kind)).result = .ok p) (asks : plan.AsksForZero) :
    build host plan builder =
      ⟨.error (.error (.timer (.zeroInterval (plan.kind.text ++ "-progress")))),
        (plan.resolved kind).effects ++ .assembling ::
          ((builder (plan.configured kind)).effects ++
            bulkSinkWarning ((plan.configured kind).runId.getD host.freshId) p)⟩ := by
  rw [build_connected host connects, Traced.bind_of_ok made, start_untimed (timerOf_zero asks _)]

/-- If the stages before the builder do not all pass, one of them decides for every builder, and
nothing has been done but to look for the connection. -/
theorem build_stuck (stuck : ∀ kind, ¬ plan.Connects kind) :
    ∃ e effects, (∀ f ∈ effects, f.isLog = true ∨ ∃ kind name, f = .lookedUp kind name) ∧
      ∀ builder : PipelineBuilder ρ, build host plan builder = ⟨.error (.error e), effects⟩ := by
  cases valid : plan.config.validate with
  | error e => exact ⟨e, [], List.forall_mem_nil _, fun _ => build_invalid host valid⟩
  | ok _ =>
    cases known : ServiceKind.ofSourceType? plan.config.source.sourceType with
    | none => exact ⟨_, [], List.forall_mem_nil _, fun _ => build_unknown host valid known⟩
    | some kind =>
      cases found : (plan.resolved kind).result with
      | ok how => exact absurd ⟨⟨valid, known⟩, how, found⟩ (stuck kind)
      | error e =>
        refine ⟨e, _, ?_, fun _ => build_unconnected host ⟨valid, known⟩ found⟩
        intro f member
        exact ((resolve_frame _ _ kind).2 f member).imp_right fun asked => ⟨_, _, asked⟩

end Stages

theorem build_staged (host : Host) (plan : Plan) (builder : PipelineBuilder ρ) :
    Staged host plan builder where
  invalid := fun e => build_invalid host
  unknown := build_unknown host
  unconnected := fun kind e => build_unconnected host
  searching := fun kind => (resolve_frame _ _ kind).2
  asked := by
    intro other same
    by_cases connected : ∃ kind, plan.Connects kind
    · obtain ⟨kind, connects⟩ := connected
      rw [build_connected host connects, build_connected host connects, same kind connects]
    · obtain ⟨_, _, _, stuck⟩ := build_stuck host (not_exists.mp connected)
      rw [stuck, stuck]
  unmade := fun kind i => build_unmade host
  untimed := fun kind p connects made asks =>
    ⟨_, bulkSinkWarning_logs _ p, build_untimed host connects made asks⟩
  created := fun kind p => build_created host
  built := by
    intro w built
    by_cases connected : ∃ kind, plan.Connects kind
    · obtain ⟨kind, connects⟩ := connected
      cases made : (builder (plan.configured kind)).result with
      | error i =>
        rw [build_unmade host connects made] at built
        cases built
      | ok p =>
        by_cases asks : plan.AsksForZero
        · rw [build_untimed host connects made asks] at built
          cases built
        · obtain ⟨v, created, same | ⟨_, _, _, _, panicked⟩⟩ :=
            build_created host connects made asks
          · rw [built] at same
            cases same
            exact ⟨asks, kind, connects, created⟩
          · rw [built] at panicked
            cases panicked
    · obtain ⟨_, _, _, stuck⟩ := build_stuck host (not_exists.mp connected)
      rw [stuck] at built
      cases built

end Building

theorem deployed_connects (interval : Option Duration) :
    { deployedPlan with interval := interval }.Connects .database := by
  have valid : deployedPlan.config.validate = .ok () := rfl
  have known : ServiceKind.ofSourceType? deployedPlan.config.source.sourceType = some .database :=
    by decide +kernel
  exact ⟨⟨valid, known⟩, .alreadyProvided, rfl⟩

def zeroIntervalPlan : Plan := { deployedPlan with interval := some ⟨0⟩ }

theorem build_staged_deployed :
    let host : Host := ⟨.epoch, ⟨0⟩, none⟩
    let builder := (Prebuilt.ofPipeline ⟨lossySource, mixedSteps⟩).builder
    let lax := { deployedPlan with config := deployedPlan.config.withTolerance 100.5 }
    build host lax builder =
        ⟨.error (.error (.invalidConfig (.invalid (.toleranceOutOfRange 100.5)))), []⟩ ∧
      (build host zeroIntervalPlan builder).result =
        .error (.error (.timer (.zeroInterval "ingestion-progress"))) ∧
      ∃ w, (build host deployedPlan builder).result = .ok w ∧
        Created host deployedPlan builder .database w := by
  intro host builder lax
  have tooHigh : (deployedPlan.config.withTolerance 100.5).validate =
      .error (.invalidConfig (.invalid (.toleranceOutOfRange 100.5))) := by rfl
  refine ⟨(build_staged host lax builder).invalid _ tooHigh, ?_, ?_⟩
  · obtain ⟨_, _, untimed⟩ := (build_staged host zeroIntervalPlan builder).untimed .database _
      (deployed_connects _) rfl ⟨_, rfl, rfl⟩
    rw [untimed]
    rfl
  · have positive : ¬ deployedPlan.AsksForZero := by
      rintro ⟨_, interval, _⟩
      cases interval
    obtain ⟨w, created, ok | ⟨_, _, _, panicked, _⟩⟩ :=
      (build_staged host deployedPlan builder).created .database _ (deployed_connects none) rfl
        positive
    · exact ⟨w, ok, created⟩
    · cases panicked

end Workflow

end Intake
