import Intake.Config.Codec
import Intake.Kind
import Intake.Log
import Intake.Status.Codec

/-!
The state of a run as it is handed to whoever keeps track of it.
-/
namespace Intake

structure Report where
  runId : Uuid
  pipelineFqn : String
  kind : Kind
  state : RunState
  startedAt : Instant
  /-- Present once the state is final. -/
  endedAt : Option Instant
  steps : List Snapshot

namespace Report

open Json.Shape (required defaulted optional constant) in
def shape : Json.Shape Report :=
  constant Report.mk <*> required "runId" Uuid.decode
    <*> required "pipelineFqn" Json.Decode.text
    <*> required "kind" Kind.decode
    <*> required "state" RunState.decode
    <*> required "startedAt" Instant.decode
    <*> optional "endedAt" Instant.decode
    <*> defaulted "steps" (Json.Decode.list Snapshot.decode) []

def decode : Json.Decoder Report := Json.Decode.record "PipelineStatusReport" shape

def toJson (r : Report) : Json :=
  .object ([("runId", r.runId.toJson), ("pipelineFqn", .text r.pipelineFqn),
      ("kind", r.kind.toJson), ("state", r.state.toJson), ("startedAt", r.startedAt.toJson)] ++
    Json.given "endedAt" (r.endedAt.map Instant.toJson) ++
    [("steps", .list (r.steps.map Snapshot.toJson))])

end Report

/-- Where reports go: what is logged about one, and how it is answered. -/
structure Reporter where
  entries : Report → List Log.Entry
  answer : Report → Reply

namespace Reporter

def silent : Reporter := ⟨fun _ => [], fun _ => .done⟩

def logging : Reporter where
  entries := fun r =>
    [⟨.info, "Pipeline status",
      [("run_id", .text r.runId.text), ("pipeline", .text r.pipelineFqn),
        ("kind", .text r.kind.text), ("state", .text r.state.text),
        ("steps", .count r.steps.length)]⟩]
  answer := fun _ => .done

def failing (e : StepError) : Reporter := ⟨fun _ => [], fun _ => .failed e⟩

end Reporter

end Intake
