import Intake.Run.Basic
import Intake.Timer
import Intake.Workflow.Plan

/-!
A workflow is a single run of a pipeline with everything around it. It is executed at most once and
stopped at most once.
-/
namespace Intake

structure Workflow (ρ : Type) where
  config : Config
  kind : Kind
  runId : Uuid
  catalog : Catalog
  source : Source ρ
  progress : Progress ρ
  tolerance : Tolerance
  reporter : Reporter
  events : EventSink
  timer : Timer
  state : RunState
  startedAt : Instant
  executed : Bool
  stopped : Bool

def Progress.statuses {ρ : Type} (g : Progress ρ) : List Status :=
  g.source :: g.stations.map (·.status)

namespace Workflow

variable {ρ : Type}

def summary (w : Workflow ρ) : Summary := ⟨w.progress.statuses.map Status.snapshot⟩

def runField (w : Workflow ρ) : String × Log.Value := ("run_id", .text w.runId.text)

/-- The present state as a report. Without the name of a deployed pipeline there is none. -/
def report? (now : Instant) (w : Workflow ρ) : Option Report :=
  w.config.pipelineFqn.map fun fqn =>
    { runId := w.runId
      pipelineFqn := fqn
      kind := w.kind
      state := w.state
      startedAt := w.startedAt
      endedAt := if w.state.isTerminal then some now else none
      steps := w.summary.steps }

/-- Hands the present state to the reporter, whose failure is only logged. -/
def sendReport (now : Instant) (w : Workflow ρ) : Traced Unit :=
  let fields := [w.runField, ("state", Log.Value.text w.state.text)]
  match w.report? now with
  | none =>
    Traced.tell
      [.logged ⟨.debug, "No ingestion pipeline FQN, skipping status report", fields⟩]
  | some r => do
    Traced.tell (.reported r :: (w.reporter.entries r).map .logged)
    match w.reporter.answer r with
    | .done => return
    | .failed e =>
      Traced.tell [.logged ⟨.warn, "Failed to report pipeline status: " ++ e.text, fields⟩]
    | .panicked p => ⟨.error (.panic p), []⟩

def raiseFromStatus (w : Workflow ρ) : Except WorkflowError Unit :=
  match w.state with
  | .failed =>
    .error (.executionFailed w.state w.summary.totals.failed w.summary.totals.processed)
  | _ => .ok ()

def describe (w : Workflow ρ) : String :=
  Text.fields "Workflow" [("kind", w.kind.label), ("run_id", w.runId.text),
    ("source", Text.quoted w.source.name),
    ("steps", Text.bracketed (w.progress.stations.map fun s => s.step.describe)),
    ("state", w.state.label), ("timer", w.timer.describe)] false

end Workflow

end Intake
