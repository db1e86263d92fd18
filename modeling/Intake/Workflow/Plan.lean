import Intake.EventSink
import Intake.Report
import Intake.Service.Resolve
import Intake.Traced

/-!
What a workflow is built from, apart from its pipeline.
-/
namespace Intake

/-- What a workflow takes from its surroundings: the time, an identifier for a run that is configured
without one, and a thread for its timer. -/
structure Host where
  now : Instant
  freshId : Uuid
  spawnFault : Option String

structure Plan where
  config : Config
  catalog : Catalog
  kind : Kind
  reporter : Reporter
  events : EventSink
  /-- Comes before the interval in the configuration. -/
  interval : Option Duration

namespace Plan

def standard (config : Config) (catalog : Catalog) : Plan :=
  ⟨config, catalog, .ingestion, .silent, .logging .info, none⟩

def reportInterval (p : Plan) (config : Config) : Duration :=
  p.interval.getD config.reportInterval

def prepare (p : Plan) : Traced (Config × ServiceKind) := do
  Traced.ofExcept p.config.validate
  let kind ← Traced.ofExcept (ServiceKind.ofSourceType p.config.source.sourceType)
  let r := resolve p.catalog p.config.source kind
  Traced.tell r.effects
  let _ ← Traced.ofExcept r.result
  return ({ p.config with source := r.source }, kind)

def describe (p : Plan) : String :=
  let interval :=
    match p.interval with
    | some d => "Some(" ++ d.text ++ ")"
    | none => "None"
  Text.fields "WorkflowBuilder" [("kind", p.kind.label),
    ("source_type", Text.quoted p.config.source.sourceType), ("report_interval", interval)] false

end Plan

end Intake
