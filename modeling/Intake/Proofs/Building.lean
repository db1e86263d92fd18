import Intake.Workflow.Build

/-!
What a built workflow is. Whatever the stages did on the way, a workflow that comes out of them is
a fresh one for the pipeline that the builder gave, with an idle timer, and its first state has
been reported.
-/
namespace Intake

namespace Traced

variable {α β : Type}

theorem bind_of_ok {x : Traced α} {f : α → Traced β} {a : α} (ok : x.result = .ok a) :
    x >>= f = ⟨(f a).result, x.effects ++ (f a).effects⟩ := by
  simp [bind, Traced.bind, ok]

theorem bind_of_error {x : Traced α} {f : α → Traced β} {i : Interruption}
    (error : x.result = .error i) : x >>= f = ⟨.error i, x.effects⟩ := by
  simp [bind, Traced.bind, error]

theorem bind_ok {x : Traced α} {f : α → Traced β} {b : β} (ok : (x >>= f).result = .ok b) :
    ∃ a, x.result = .ok a ∧ (f a).result = .ok b ∧
      (x >>= f).effects = x.effects ++ (f a).effects := by
  cases came : x.result with
  | error i =>
    rw [bind_of_error came] at ok
    cases ok
  | ok a =>
    rw [bind_of_ok came] at ok ⊢
    exact ⟨a, rfl, ok, rfl⟩

end Traced

namespace Plan

def resolved (p : Plan) (kind : ServiceKind) : Resolved := resolve p.catalog p.config.source kind

structure Admits (p : Plan) (kind : ServiceKind) : Prop where
  valid : p.config.validate = .ok ()
  known : ServiceKind.ofSourceType? p.config.source.sourceType = some kind

section Preparing

variable {p : Plan} {kind : ServiceKind}

theorem prepare_invalid {e : WorkflowError} (invalid : p.config.validate = .error e) :
    p.prepare = ⟨.error (.error e), []⟩ := by
  rw [prepare, Traced.bind_of_error (i := .error e) (by rw [invalid]; rfl)]
  rfl

theorem prepare_unknown (valid : p.config.validate = .ok ())
    (unknown : ServiceKind.ofSourceType? p.config.source.sourceType = none) :
    p.prepare = ⟨.error (.error (.unknownSourceType p.config.source.sourceType)), []⟩ := by
  rw [prepare, valid, Traced.bind_of_ok rfl, ServiceKind.ofSourceType, unknown]
  rfl

theorem Admits.prepare (admits : p.Admits kind) :
    p.prepare =
      ⟨((p.resolved kind).result.map fun _ =>
          ({ p.config with source := (p.resolved kind).source }, kind)).mapError .error,
        (p.resolved kind).effects⟩ := by
  rw [Plan.prepare, admits.valid, Traced.bind_of_ok rfl, ServiceKind.ofSourceType, admits.known,
    Traced.bind_of_ok (a := kind) rfl, Traced.bind_of_ok rfl, ← resolved]
  cases searched : (p.resolved kind).result with
  | error e =>
    rw [Traced.bind_of_error rfl]
    exact congrArg (Traced.mk _) (List.append_nil _)
  | ok how =>
    rw [Traced.bind_of_ok rfl]
    exact congrArg (Traced.mk _) (List.append_nil _)

theorem prepare_ok {config : Config} (prepared : p.prepare.result = .ok (config, kind)) :
    let resolved := resolve p.catalog p.config.source kind
    config = { p.config with source := resolved.source } ∧
      p.prepare.effects = resolved.effects := by
  cases valid : p.config.validate with
  | error e =>
    rw [prepare_invalid valid] at prepared
    cases prepared
  | ok _ =>
    cases known : ServiceKind.ofSourceType? p.config.source.sourceType with
    | none =>
      rw [prepare_unknown valid known] at prepared
      cases prepared
    | some service =>
      have equation := Admits.prepare ⟨valid, known⟩
      rw [equation] at prepared ⊢
      cases searched : (p.resolved service).result with
      | error e =>
        rw [searched] at prepared
        cases prepared
      | ok how =>
        rw [searched] at prepared
        cases prepared
        exact ⟨rfl, rfl⟩

end Preparing

variable {ρ : Type}

/-- The builder makes this pipeline from the configuration that the plan leads to. -/
def Assembles (p : Plan) (builder : PipelineBuilder ρ) (pipeline : Pipeline ρ) : Prop :=
  ∃ config service, p.prepare.result = .ok (config, service) ∧
    (builder config).result = .ok pipeline

theorem Assembles.unique {p : Plan} {builder : PipelineBuilder ρ} {pipeline other : Pipeline ρ}
    (one : p.Assembles builder pipeline) (two : p.Assembles builder other) : pipeline = other := by
  obtain ⟨config, service, prepared, assembled⟩ := one
  obtain ⟨config', service', prepared', assembled'⟩ := two
  rw [prepared] at prepared'
  cases prepared'
  exact Except.ok.inj (assembled.symm.trans assembled')

end Plan

theorem Timer.create_ok {name : String} {interval : Duration} {spawnFault : Option String}
    {timer : Timer} (created : Timer.create name interval spawnFault = .ok timer) :
    timer = ⟨name, interval, .idle, spawnFault⟩ := by
  unfold Timer.create at created
  split at created
  · cases created
  · cases created
    rfl

namespace Workflow

variable {ρ : Type}

def timerOf (host : Host) (plan : Plan) (config : Config) : Except TimerError Timer :=
  Timer.create (plan.kind.text ++ "-progress") (plan.reportInterval config) host.spawnFault

section Starting

variable {host : Host} {plan : Plan} {config : Config} {service : ServiceKind}
  {pipeline : Pipeline ρ}

theorem start_untimed {e : TimerError} (untimed : timerOf host plan config = .error e) :
    start host plan config service pipeline =
      ⟨.error (.error (.timer e)),
        bulkSinkWarning (config.runId.getD host.freshId) pipeline⟩ := by
  rw [timerOf] at untimed
  rw [start, Traced.bind_of_ok rfl, Traced.bind_of_error (i := .error (.timer e))]
  · simp [Traced.tell, Traced.ofExcept]
  · rw [untimed]
    rfl

theorem start_timed {timer : Timer} (timed : timerOf host plan config = .ok timer) :
    let w := fresh host plan config pipeline timer
    start host plan config service pipeline =
      ⟨(w.sendReport host.now).result.map fun _ => w,
        bulkSinkWarning w.runId pipeline ++
          .logged (createdEntry service w) :: (w.sendReport host.now).effects⟩ := by
  intro w
  rw [timerOf] at timed
  rw [start, Traced.bind_of_ok rfl, Traced.bind_of_ok (a := timer), Traced.bind_of_ok rfl]
  · cases sent : (w.sendReport host.now).result with
    | error i =>
      rw [Traced.bind_of_error sent]
      simp [Traced.tell, Traced.ofExcept, Except.map, w, fresh]
    | ok _ =>
      rw [Traced.bind_of_ok sent]
      simp [Traced.tell, Traced.ofExcept, Except.map, pure, w, fresh]
  · rw [timed]
    rfl

theorem start_ok {w : Workflow ρ}
    (started : (start host plan config service pipeline).result = .ok w) :
    ∃ timer, timerOf host plan config = .ok timer ∧ w = fresh host plan config pipeline timer ∧
      (start host plan config service pipeline).effects =
        bulkSinkWarning (config.runId.getD host.freshId) pipeline ++
          .logged (createdEntry service w) :: (w.sendReport host.now).effects := by
  cases timed : timerOf host plan config with
  | error e =>
    rw [start_untimed timed] at started
    cases started
  | ok timer =>
    rw [start_timed timed] at started ⊢
    cases sent : ((fresh host plan config pipeline timer).sendReport host.now).result with
    | error i =>
      rw [sent] at started
      cases started
    | ok _ =>
      rw [sent] at started
      cases started
      exact ⟨timer, rfl, rfl, rfl⟩

end Starting

theorem build_ok {host : Host} {plan : Plan} {builder : PipelineBuilder ρ} {w : Workflow ρ}
    (built : (build host plan builder).result = .ok w) :
    ∃ config service pipeline timer, plan.prepare.result = .ok (config, service) ∧
      (builder config).result = .ok pipeline ∧ timerOf host plan config = .ok timer ∧
        w = fresh host plan config pipeline timer ∧
        (build host plan builder).effects =
          plan.prepare.effects ++ .assembling ::
            ((builder config).effects ++
              (bulkSinkWarning w.runId pipeline ++
                .logged (createdEntry service w) :: (w.sendReport host.now).effects)) := by
  unfold build at built ⊢
  obtain ⟨⟨config, service⟩, prepared, built, first⟩ := Traced.bind_ok built
  obtain ⟨_, _, built, second⟩ := Traced.bind_ok built
  obtain ⟨pipeline, assembled, built, third⟩ := Traced.bind_ok built
  obtain ⟨timer, created, rfl, last⟩ := start_ok built
  refine ⟨config, service, pipeline, timer, prepared, assembled, created, rfl, ?_⟩
  rw [first]
  simp only at second third ⊢
  rw [second, third, last]
  rfl

theorem built_timer {host : Host} {plan : Plan} {builder : PipelineBuilder ρ} {w : Workflow ρ}
    (built : (build host plan builder).result = .ok w) :
    ∃ interval, w.timer = ⟨plan.kind.text ++ "-progress", interval, .idle, host.spawnFault⟩ := by
  obtain ⟨_, _, _, timer, _, _, created, rfl, _⟩ := build_ok built
  exact ⟨_, Timer.create_ok created⟩

theorem built_spawnFault {host : Host} {plan : Plan} {builder : PipelineBuilder ρ}
    {w : Workflow ρ} (built : (build host plan builder).result = .ok w) :
    w.timer.spawnFault = host.spawnFault := by
  obtain ⟨_, timer⟩ := built_timer built
  rw [timer]

/-- A built workflow has the pipeline of its builder, with nothing noted or received yet. -/
theorem built_pipeline {host : Host} {plan : Plan} {builder : PipelineBuilder ρ} {w : Workflow ρ}
    (built : (build host plan builder).result = .ok w) :
    ∃ p, plan.Assembles builder p ∧ w.source = p.source ∧
      w.progress =
        ⟨.start p.source.name .source host.now, Station.startAll host.now p.steps⟩ := by
  obtain ⟨config, service, p, timer, prepared, assembled, _, rfl, _⟩ := build_ok built
  exact ⟨p, ⟨config, service, prepared, assembled⟩, rfl, rfl⟩

end Workflow

end Intake
