import Intake.Workflow.Basic

/-!
Executing and stopping a workflow. An execution always ends by stopping, unless a panic of the
reporter or of the event sink leaves it first.
-/
namespace Intake.Workflow

variable {ρ : Type}

structure Turn (ρ α : Type) where
  workflow : Workflow ρ
  result : α
  effects : List Effect

def emit (type : String) (data : Option Json) (w : Workflow ρ) : Traced Unit := do
  Traced.tell (.emitted type data :: (w.events.entries type data).map .logged)
  match w.events.panics type data with
  | none => return
  | some p => ⟨.error (.panic p), []⟩

def summaryPayload (w : Workflow ρ) : Json :=
  .normal (.object [("run_id", .text w.runId.text), ("state", w.state.toJson),
    ("totals", w.summary.totals.toJson), ("summary", .text w.summary.render)])

def announce (now : Instant) (w : Workflow ρ) : Traced Unit := do
  Traced.tell [.logged ⟨.info, "Workflow finished\n" ++ w.summary.render,
    [w.runField, ("state", .text w.state.text), ("failure_ratio", .ratio w.summary.failureRatio)]⟩]
  w.emit summaryEvent (some w.summaryPayload)
  w.sendReport now

def closings (w : Workflow ρ) : List (Component × Reply) :=
  (.catalog, w.catalog.onClose) :: (.source w.source.name, w.source.onClose) ::
    w.progress.stations.map fun s => (s.component, s.step.onClose)

/-- Stops the timer. This shows only if the timer has been running. -/
def stopTimer (w : Workflow ρ) : Turn ρ Unit :=
  let (timer, ran) := w.timer.stop
  ⟨{ w with timer := timer }, (),
    if ran then
      [.timerStopped, .logged timer.stopEntry,
        .logged ⟨.debug, "Progress timer stopped", [w.runField]⟩]
    else []⟩

/-- Stops the timer and closes every component. Nothing is done the second time. -/
def stop (w : Workflow ρ) : Turn ρ Unit :=
  if w.stopped then ⟨w, (), []⟩
  else
    let timed := w.stopTimer
    ⟨{ timed.workflow with stopped := true }, (),
      timed.effects ++ w.closings.map (fun c => .closed c.1 c.2) ++
        [.logged ⟨.info, "Workflow stopped", [w.runField, ("state", .text w.state.text)]⟩]⟩

/-- Runs the pipeline while the timer runs. If the timer does not start, nothing else does. -/
def run [Record ρ] (now : Instant) (w : Workflow ρ) : Turn ρ (Except WorkflowError Unit) :=
  match w.timer.start with
  | .error e => ⟨{ w with executed := true }, .error (.timer e), []⟩
  | .ok timer =>
    let r := w.source.run w.runId.text now.toSeconds w.progress
    ⟨{ w with
        executed := true
        timer := timer
        progress := r.progress }, r.result,
      [.timerStarted, .logged w.timer.startEntry,
        .logged ⟨.info, "Starting workflow",
          [w.runField, ("kind", .text w.kind.text), ("source", .text w.source.name)]⟩] ++
        r.effects⟩

/-- The state that a run ends in. An error fails it whatever the counters say. -/
def verdict (w : Workflow ρ) : Except WorkflowError Unit → RunState
  | .ok () => w.summary.state w.tolerance
  | .error _ => .failed

def failureEntries (w : Workflow ρ) : Except WorkflowError Unit → List Effect
  | .ok () => []
  | .error e =>
    [.logged ⟨.error, "Workflow failed: " ++ e.message,
      [w.runField, ("kind", .text w.kind.text)]⟩]

def execute [Record ρ] (now : Instant) (w : Workflow ρ) :
    Turn ρ (Except Interruption RunState) :=
  if w.executed then ⟨w, .error (.error (.alreadyExecuted w.runId.text)), []⟩
  else if w.stopped then ⟨w, .error (.error (.stopped w.runId.text)), []⟩
  else
    let r := w.run now
    let final := { r.workflow with state := r.workflow.verdict r.result }
    let told := final.announce now
    let effects := r.effects ++ r.workflow.failureEntries r.result ++ told.effects
    match told.result with
    | .error i => ⟨final, .error i, effects⟩
    | .ok () =>
      let s := final.stop
      ⟨s.workflow, (r.result.map fun _ => final.state).mapError .error, effects ++ s.effects⟩

end Intake.Workflow
