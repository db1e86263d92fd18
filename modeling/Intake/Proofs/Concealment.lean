import Intake.Pipeline.Registry
import Intake.Proofs.Replay
import Intake.Proofs.Staging
import Intake.Workflow.Progress

/-!
Credentials do not show. Take two plans that differ only in what is inside a connection, be it the
configured one or one that the catalog has stored. If the builder of the steps does not look at the
connection, building comes to the same, and whatever is asked of the two workflows, the same is
seen of both.
-/
namespace Intake

variable {ρ : Type}

inductive Alike {ε α β : Type} (R : α → β → Prop) : Except ε α → Except ε β → Prop
  | error (e : ε) : Alike R (.error e) (.error e)
  | ok {a : α} {b : β} (related : R a b) : Alike R (.ok a) (.ok b)

section Veiling

def Connection.Veils (c d : Connection) : Prop := d.isEmpty = c.isEmpty

def Config.Source.Veils (s t : Config.Source) : Prop :=
  ∃ connection, Option.Rel Connection.Veils s.connection connection ∧
    t = { s with connection := connection }

def Config.Veils (c d : Config) : Prop :=
  ∃ source, c.source.Veils source ∧ d = { c with source := source }

def Service.Veils (s t : Service) : Prop :=
  ∃ connection, Option.Rel Connection.Veils s.connection connection ∧
    t = { s with connection := connection }

def Catalog.Veils (k l : Catalog) : Prop :=
  ∃ lookup,
    (∀ kind name, Alike (Option.Rel Service.Veils) (k.lookup kind name) (lookup kind name)) ∧
      l = { k with lookup := lookup }

/-- The plans are the same but for what is inside the connections. -/
def Plan.Veils (p q : Plan) : Prop :=
  ∃ config catalog, p.config.Veils config ∧ p.catalog.Veils catalog ∧
    q = { p with
      config := config
      catalog := catalog }

def Workflow.Veils (w v : Workflow ρ) : Prop :=
  ∃ config catalog, w.config.Veils config ∧ w.catalog.Veils catalog ∧
    v = { w with
      config := config
      catalog := catalog }

/-- The builder does not look at the connection, and neither does the pipeline that it makes. -/
def PipelineBuilder.Blind (builder : PipelineBuilder ρ) : Prop :=
  ∀ c d : Config, c.Veils d → builder d = builder c

end Veiling

namespace Traced

variable {α β γ δ : Type} {R : α → β → Prop} {S : γ → δ → Prop}

structure Veils (t : Traced α) (R : α → β → Prop) (u : Traced β) : Prop where
  result : Alike R t.result u.result
  effects : u.effects = t.effects

theorem Veils.same (t : Traced α) : t.Veils Eq t := by
  refine ⟨?_, rfl⟩
  cases t.result with
  | error i => exact .error i
  | ok a => exact .ok rfl

theorem Veils.bind {t : Traced α} {u : Traced β} {f : α → Traced γ} {g : β → Traced δ}
    (first : t.Veils R u) (next : ∀ a b, R a b → (f a).Veils S (g b)) :
    (t >>= f).Veils S (u >>= g) := by
  obtain ⟨result, _⟩ := t
  obtain ⟨result', effects⟩ := u
  obtain ⟨results, rfl⟩ := first
  cases results with
  | error i => exact ⟨.error i, rfl⟩
  | ok related =>
    obtain ⟨results, more⟩ := next _ _ related
    exact ⟨results, congrArg (effects ++ ·) more⟩

end Traced

section Preparing

variable {p q : Plan} {k l : Catalog} {s t : Config.Source} {kind : ServiceKind}

theorem Config.Source.Veils.hasConnection (source : s.Veils t) :
    t.hasConnection = s.hasConnection := by
  obtain ⟨connection, related, rfl⟩ := source
  unfold Config.Source.hasConnection
  generalize s.connection = given at related ⊢
  cases related with
  | none => rfl
  | some same => exact congrArg (!·) same

theorem usableConnection_veiled {found found' : Option Service}
    (related : Option.Rel Service.Veils found found') :
    Option.Rel Connection.Veils (usableConnection found) (usableConnection found') := by
  cases related with
  | none => exact .none
  | @some a _ stored =>
    obtain ⟨connection, related, rfl⟩ := stored
    simp only [usableConnection, Option.bind_some]
    generalize a.connection = given at related ⊢
    cases related with
    | none => exact .none
    | @some c d same =>
      cases empty : c.isEmpty with
      | true =>
        simp only [Option.filter_some, same.trans empty, empty]
        exact .none
      | false =>
        simp only [Option.filter_some, same.trans empty, empty]
        exact .some same

theorem resolve_veiled (catalog : k.Veils l) (source : s.Veils t) (kind : ServiceKind) :
    (resolve k s kind).source.Veils (resolve l t kind).source ∧
      (resolve l t kind).result = (resolve k s kind).result ∧
      (resolve l t kind).effects = (resolve k s kind).effects := by
  have filled := source.hasConnection
  obtain ⟨lookup, answers, rfl⟩ := catalog
  obtain ⟨connection, related, rfl⟩ := source
  unfold resolve
  rw [filled]
  split
  · exact ⟨⟨connection, related, rfl⟩, rfl, rfl⟩
  split
  · exact ⟨⟨connection, related, rfl⟩, rfl, rfl⟩
  -- both catalogs are asked for the same service
  have answer := answers kind s.serviceName
  dsimp only
  generalize k.lookup kind s.serviceName = found, lookup kind s.serviceName = found' at answer ⊢
  cases answer with
  | error e => exact ⟨⟨connection, related, rfl⟩, rfl, rfl⟩
  | @ok found found' stored =>
    have usable := usableConnection_veiled stored
    dsimp only
    generalize usableConnection found = c, usableConnection found' = d at usable ⊢
    cases usable with
    | none => exact ⟨⟨connection, related, rfl⟩, rfl, rfl⟩
    | some same => exact ⟨⟨_, .some same, rfl⟩, rfl, rfl⟩

theorem Plan.Veils.prepare (plans : p.Veils q) :
    p.prepare.Veils (fun a b => a.1.Veils b.1 ∧ b.2 = a.2) q.prepare := by
  obtain ⟨_, catalog, ⟨source, sources, rfl⟩, catalogs, rfl⟩ := plans
  obtain ⟨connection, related, rfl⟩ := sources
  unfold Plan.prepare
  refine (Traced.Veils.same _).bind fun _ _ _ => (Traced.Veils.same _).bind fun kind _ known => ?_
  cases known
  obtain ⟨after, result, effects⟩ := resolve_veiled catalogs ⟨connection, related, rfl⟩ kind
  dsimp only
  rw [result, effects]
  refine (Traced.Veils.same _).bind fun _ _ _ => (Traced.Veils.same _).bind fun _ _ _ => ?_
  exact ⟨.ok ⟨⟨_, after, rfl⟩, rfl⟩, rfl⟩

end Preparing

namespace Registry

structure Blind (g : Registry ρ) : Prop where
  sources : ∀ type f, g.sources.lookup type = some f → ∀ c d : Config, c.Veils d → f d = f c
  recordSteps : ∀ key f, g.recordSteps.lookup key = some f →
    ∀ component, ∀ c d : Config, c.Veils d → f component d = f component c
  bulkSinks : ∀ type f, g.bulkSinks.lookup type = some f →
    ∀ component, ∀ c d : Config, c.Veils d → f component d = f component c

variable {g : Registry ρ} (blind : g.Blind) {c d : Config} (configs : c.Veils d)

include blind configs

theorem makeStep_blind (place : Nat) (s : Config.Section) :
    g.makeStep d place s = g.makeStep c place s := by
  cases s with
  | record role component =>
    have same := Option.map_congr fun f found =>
      blind.recordSteps (role, component.componentType) f found component c d configs
    simp only [makeStep, same]
  | bulk component =>
    have same := Option.map_congr fun f found =>
      blind.bulkSinks component.componentType f found component c d configs
    simp only [makeStep, same]

theorem makeSteps_blind (place : Nat) (sections : List Config.Section) :
    g.makeSteps d place sections = g.makeSteps c place sections := by
  induction sections generalizing place with
  | nil => rfl
  | cons s rest ih => simp only [makeSteps, makeStep_blind blind configs, ih]

theorem makeSource_blind : g.makeSource d = g.makeSource c := by
  have type : d.source.sourceType = c.source.sourceType := by
    obtain ⟨_, ⟨_, _, rfl⟩, rfl⟩ := configs
    rfl
  have same := Option.map_congr fun f found =>
    blind.sources c.source.sourceType f found c d configs
  simp only [makeSource, type, same]

omit configs in
theorem builder_blind : PipelineBuilder.Blind g.builder := by
  intro c d configs
  have sections : d.sections = c.sections := by
    obtain ⟨_, _, rfl⟩ := configs
    rfl
  simp only [builder, makeSource_blind blind configs, makeSteps_blind blind configs, sections]

end Registry

namespace Workflow

section Building

variable {p q : Plan} {builder : PipelineBuilder ρ}

theorem start_veiled (host : Host) (plans : p.Veils q) {c d : Config} (configs : c.Veils d)
    (service : ServiceKind) (pipeline : Pipeline ρ) :
    (start host p c service pipeline).Veils Workflow.Veils (start host q d service pipeline) := by
  obtain ⟨_, catalog, _, catalogs, rfl⟩ := plans
  obtain ⟨source, sources, rfl⟩ := configs
  unfold start
  refine (Traced.Veils.same _).bind fun _ _ _ => (Traced.Veils.same _).bind fun timer _ same => ?_
  subst same
  refine (Traced.Veils.same _).bind fun _ _ _ => (Traced.Veils.same _).bind fun _ _ _ => ?_
  exact ⟨.ok ⟨_, catalog, ⟨source, sources, rfl⟩, catalogs, rfl⟩, rfl⟩

theorem build_veiled (host : Host) (plans : p.Veils q) (blind : builder.Blind) :
    (build host p builder).Veils Workflow.Veils (build host q builder) := by
  unfold build
  refine plans.prepare.bind ?_
  rintro ⟨c, _⟩ ⟨d, service⟩ ⟨configs, rfl⟩
  refine (Traced.Veils.same _).bind fun _ _ _ => ?_
  rw [blind c d configs]
  refine (Traced.Veils.same _).bind ?_
  rintro pipeline _ rfl
  exact start_veiled host plans configs service pipeline

end Building

structure Turn.Veils {α : Type} (t u : Turn ρ α) : Prop where
  workflow : t.workflow.Veils u.workflow
  result : u.result = t.result
  effects : u.effects = t.effects

section Calling

variable (now : Instant) {w v : Workflow ρ} (workflows : w.Veils v)

include workflows

theorem announce_veiled : v.announce now = w.announce now := by
  -- of the configuration only the name of the pipeline is told, and that is the same
  obtain ⟨_, _, ⟨_, _, rfl⟩, _, rfl⟩ := workflows
  rfl

theorem stop_veiled : w.stop.Veils v.stop := by
  obtain ⟨config, _, configs, ⟨lookup, answers, rfl⟩, rfl⟩ := workflows
  unfold stop
  dsimp only
  split <;> exact ⟨⟨config, _, configs, ⟨lookup, answers, rfl⟩, rfl⟩, rfl, rfl⟩

variable [Record ρ]

theorem run_veiled : (w.run now).Veils (v.run now) := by
  obtain ⟨config, catalog, configs, catalogs, rfl⟩ := workflows
  unfold run
  dsimp only
  split <;> exact ⟨⟨config, catalog, configs, catalogs, rfl⟩, rfl, rfl⟩

theorem settled_veiled :
    (w.settled now).Veils (v.settled now) ∧ v.settling now = w.settling now := by
  obtain ⟨⟨config, catalog, configs, catalogs, same⟩, result, effects⟩ := run_veiled now workflows
  unfold settled settling
  rw [same, result, effects]
  cases (w.run now).result <;> exact ⟨⟨config, catalog, configs, catalogs, rfl⟩, rfl⟩

theorem execute_veiled : (w.execute now).Veils (v.execute now) := by
  have same : v.executed = w.executed ∧ v.stopped = w.stopped ∧ v.runId = w.runId := by
    obtain ⟨_, _, _, _, rfl⟩ := workflows
    exact ⟨rfl, rfl, rfl⟩
  obtain ⟨executed', stopped', runId⟩ := same
  by_cases executed : w.executed = true
  · rw [execute, execute, if_pos executed, if_pos (executed'.trans executed), runId]
    exact ⟨workflows, rfl, rfl⟩
  by_cases stopped : w.stopped = true
  · rw [execute, execute, if_neg executed, if_pos stopped, if_neg (executed' ▸ executed),
      if_pos (stopped'.trans stopped), runId]
    exact ⟨workflows, rfl, rfl⟩
  rw [Bool.not_eq_true] at executed stopped
  obtain ⟨settled, settling⟩ := settled_veiled now workflows
  obtain ⟨after, _, closed⟩ := stop_veiled settled
  have state : (v.settled now).state = (w.settled now).state := by
    obtain ⟨_, _, _, _, same⟩ := settled
    rw [same]
  rw [execute_eq now executed stopped, execute_eq now (executed'.trans executed)
    (stopped'.trans stopped), announce_veiled now settled, settling,
    (run_veiled now workflows).result, closed, state]
  dsimp only
  split
  · exact ⟨settled, rfl, rfl⟩
  · exact ⟨after, rfl, rfl⟩

theorem perform_veiled (c : Call) : (w.perform c).Veils (v.perform c) := by
  cases c with
  | execute now =>
    obtain ⟨after, result, effects⟩ := execute_veiled now workflows
    exact ⟨after, congrArg some result, effects⟩
  | stop =>
    obtain ⟨after, _, effects⟩ := stop_veiled workflows
    exact ⟨after, rfl, effects⟩

theorem performAll_veiled (calls : List Call) :
    (w.performAll calls).Veils (v.performAll calls) := by
  induction calls generalizing w v with
  | nil => exact ⟨workflows, rfl, rfl⟩
  | cons c rest ih =>
    obtain ⟨after, answer, effects⟩ := perform_veiled workflows c
    obtain ⟨last, answers, more⟩ := ih after
    refine ⟨last, ?_, ?_⟩
    · simp only [performAll, answer, answers]
    · simp only [performAll, effects, more]

end Calling

/-- What is seen of the calls on a workflow, and of the workflow after them. -/
structure Shown where
  answers : List Answer
  effects : List Effect
  log : List Log.Entry
  reports : List Report
  events : List (String × Option Json)
  progress : List Json
  progressAt : List Effect → Json
  state : RunState
  summary : Summary
  summaryPayload : Json
  report? : Instant → Option Report
  raised : Except WorkflowError Unit
  description : String

def shown [Record ρ] (w : Workflow ρ) (calls : List Call) : Shown :=
  let t := w.performAll calls
  { answers := t.result
    effects := t.effects
    log := logOf t.effects
    reports := reportsIn t.effects
    events := eventsIn t.effects
    progress := progressIn w.runId.text w.progress.statuses t.effects
    progressAt := fun before =>
      progressPayload w.runId.text (statusesAfter w.progress.statuses before)
    state := t.workflow.state
    summary := t.workflow.summary
    summaryPayload := t.workflow.summaryPayload
    report? := fun now => t.workflow.report? now
    raised := t.workflow.raiseFromStatus
    description := t.workflow.describe }

theorem shown_veiled [Record ρ] {w v : Workflow ρ} (workflows : w.Veils v) (calls : List Call) :
    v.shown calls = w.shown calls := by
  obtain ⟨after, answers, effects⟩ := performAll_veiled workflows calls
  obtain ⟨_, _, ⟨_, _, rfl⟩, _, last⟩ := after
  obtain ⟨_, _, _, _, first⟩ := workflows
  simp only [shown, answers, effects, last]
  rw [first]
  rfl

/-- What is inside the connections makes no difference to the building of a workflow, nor to
anything that is ever seen of it, nor to how builder, resolver and connection describe
themselves. -/
theorem build_conceals [Record ρ] {plan other : Plan} {builder : PipelineBuilder ρ}
    (plans : plan.Veils other) (blind : builder.Blind) (host : Host) :
    (build host plan builder).Veils Workflow.Veils (build host other builder) ∧
      (∀ w v, (build host plan builder).result = .ok w → (build host other builder).result = .ok v →
        ∀ calls : List Call, v.shown calls = w.shown calls) ∧
      other.describe = plan.describe ∧
      describeResolver other.catalog = describeResolver plan.catalog ∧
      ∀ c d : Connection, c.declaredType = d.declaredType → c.describe = d.describe := by
  have buildings := build_veiled host plans blind
  refine ⟨buildings, ?_, ?_, ?_, ?_⟩
  · intro w v built built' calls
    have results := buildings.result
    rw [built, built'] at results
    cases results with
    | ok workflows => exact shown_veiled workflows calls
  · obtain ⟨_, _, ⟨_, ⟨_, _, rfl⟩, rfl⟩, _, rfl⟩ := plans
    rfl
  · obtain ⟨_, _, _, ⟨_, _, rfl⟩, rfl⟩ := plans
    rfl
  · intro c d declared
    rw [Connection.describe, declared, Connection.describe]

def namingRegistry : Registry String :=
  Registry.empty.registerSource "mysql" fun c =>
    .ok { lossySource with name := c.source.serviceName }

theorem namingRegistry_blind : namingRegistry.Blind := by
  refine ⟨?_, nofun, nofun⟩
  intro type f found c d configs
  obtain ⟨_, ⟨_, _, rfl⟩, rfl⟩ := configs
  simp only [namingRegistry, Registry.registerSource, Registry.empty, List.lookup_cons] at found
  split at found
  · cases found
    rfl
  · cases found

def barePlan : Plan :=
  { deployedPlan with
    config := { deployedPlan.config with
      source := { deployedPlan.config.source with connection := none } } }

def vaultPlan (password : String) : Plan :=
  { barePlan with
    catalog := .ofServices .default
      [⟨"local_mysql", .database, some ⟨.object [("password", .text password)]⟩⟩] .done }

theorem vault_veiled (password other : String) : (vaultPlan password).Veils (vaultPlan other) := by
  refine ⟨barePlan.config, (vaultPlan other).catalog,
    ⟨_, ⟨_, .none, rfl⟩, rfl⟩, ⟨_, fun kind name => .ok ?_, rfl⟩, rfl⟩
  simp only [Catalog.find, List.reverse_singleton, List.find?_cons]
  split
  · exact .some ⟨some ⟨.object [("password", .text other)]⟩, .some rfl, rfl⟩
  · exact .none

theorem vault_built (password : String) :
    ∃ w, (build ⟨.epoch, ⟨0⟩, none⟩ (vaultPlan password) namingRegistry.builder).result = .ok w ∧
      w.config.source.connection = some ⟨.object [("password", .text password)]⟩ := by
  have valid : barePlan.config.validate = .ok () := rfl
  have known : ServiceKind.ofSourceType? barePlan.config.source.sourceType = some .database := by
    decide +kernel
  have admits : (vaultPlan password).Admits .database := ⟨valid, known⟩
  have connects : (vaultPlan password).Connects .database := ⟨admits, .fromCatalog, rfl⟩
  have positive : ¬ (vaultPlan password).AsksForZero := by
    rintro ⟨_, interval, _⟩
    cases interval
  have made : (namingRegistry.builder ((vaultPlan password).configured .database)).result =
      .ok ⟨{ lossySource with name := "local_mysql" }, []⟩ := rfl
  obtain ⟨w, created, ok | ⟨_, _, _, panicked, _⟩⟩ :=
    build_created ⟨.epoch, ⟨0⟩, none⟩ connects made positive
  · obtain ⟨_, _, begun⟩ := created.begun
    refine ⟨w, ok, ?_⟩
    rw [begun.config]
    rfl
  · cases panicked

theorem build_conceals_vault :
    let builder : PipelineBuilder String := namingRegistry.builder
    (vaultPlan "hunter2").Veils (vaultPlan "swordfish") ∧ builder.Blind ∧
      ∃ w v, (build ⟨.epoch, ⟨0⟩, none⟩ (vaultPlan "hunter2") builder).result = .ok w ∧
        (build ⟨.epoch, ⟨0⟩, none⟩ (vaultPlan "swordfish") builder).result = .ok v ∧
        w.config.source.connection.map Connection.toJson =
          some (.object [("password", .text "hunter2")]) ∧
        v.config.source.connection.map Connection.toJson =
          some (.object [("password", .text "swordfish")]) ∧
        v.shown [.execute .epoch] = w.shown [.execute .epoch] := by
  intro builder
  have plans := vault_veiled "hunter2" "swordfish"
  have blind : builder.Blind := Registry.builder_blind namingRegistry_blind
  obtain ⟨w, built, held⟩ := vault_built "hunter2"
  obtain ⟨v, built', held'⟩ := vault_built "swordfish"
  obtain ⟨_, shown, _⟩ := build_conceals plans blind ⟨.epoch, ⟨0⟩, none⟩
  refine ⟨plans, blind, w, v, built, built', ?_, ?_, shown w v built built' [.execute .epoch]⟩
  · rw [held]
    rfl
  · rw [held']
    rfl

end Workflow

end Intake
