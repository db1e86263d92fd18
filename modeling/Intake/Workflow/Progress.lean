import Intake.Workflow.Basic

/-!
Progress reports: the counters of every component while the workflow runs. The counters at any
moment follow from what was noted up to then.
-/
namespace Intake.Workflow

variable {ρ : Type}

def progressLine (s : Status) : Json :=
  .object ([("name", .text s.name), ("role", s.role.toJson)] ++ s.counts.members)

def progressPayload (runId : String) (statuses : List Status) : Json :=
  .normal (.object [("run_id", .text runId), ("steps", .list (statuses.map progressLine))])

/-- The payloads for which components wait, if the statuses are as given at the beginning. -/
def progressIn (runId : String) : List Status → List Effect → List Json
  | _, [] => []
  | statuses, .noted place _ n :: rest =>
    progressIn runId (statuses.modify place fun s => s.note n) rest
  | statuses, .progressAwaited :: rest =>
    progressPayload runId statuses :: progressIn runId statuses rest
  | statuses, _ :: rest => progressIn runId statuses rest

end Intake.Workflow
