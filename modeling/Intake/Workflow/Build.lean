import Intake.Pipeline.Basic
import Intake.Workflow.Basic

/-!
Building a workflow. The stages follow one another, and the first that fails decides: the
configuration, the kind of service, the connection, the pipeline, the timer.
-/
namespace Intake.Workflow

variable {ρ : Type}

def bulkSinkWarning (runId : Uuid) (pipeline : Pipeline ρ) : List Effect :=
  let count := pipeline.countRole .bulkSink
  if 1 < count then
    [.logged ⟨.warn, "More than one bulk sink configured, only the first one will run",
      [("run_id", .text runId.text), ("bulk_sinks", .count count)]⟩]
  else []

def fresh (host : Host) (plan : Plan) (config : Config) (pipeline : Pipeline ρ) (timer : Timer) :
    Workflow ρ where
  config := config
  kind := plan.kind
  runId := config.runId.getD host.freshId
  catalog := plan.catalog
  source := pipeline.source
  progress :=
    { source := .start pipeline.source.name .source host.now
      stations := Station.startAll host.now pipeline.steps }
  tolerance := config.tolerance
  reporter := plan.reporter
  events := plan.events
  timer := timer
  state := .running
  startedAt := host.now
  executed := false
  stopped := false

def createdEntry (service : ServiceKind) (w : Workflow ρ) : Log.Entry :=
  ⟨.info, "Workflow created",
    [w.runField, ("kind", .text w.kind.text), ("service_type", .text service.entityType),
      ("source", .text w.source.name), ("steps", .count w.progress.stations.length)]⟩

def start (host : Host) (plan : Plan) (config : Config) (service : ServiceKind)
    (pipeline : Pipeline ρ) : Traced (Workflow ρ) := do
  Traced.tell (bulkSinkWarning (config.runId.getD host.freshId) pipeline)
  let timer ← Traced.ofExcept
    ((Timer.create (plan.kind.text ++ "-progress") (plan.reportInterval config)
      host.spawnFault).mapError .timer)
  let w := fresh host plan config pipeline timer
  Traced.tell [.logged (createdEntry service w)]
  w.sendReport host.now
  return w

def build (host : Host) (plan : Plan) (builder : PipelineBuilder ρ) : Traced (Workflow ρ) := do
  let (config, service) ← plan.prepare
  Traced.tell [.assembling]
  let pipeline ← builder config
  start host plan config service pipeline

end Intake.Workflow
