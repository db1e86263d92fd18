import Intake.Run.Drain
import Intake.Traced

/-!
A run: the source is drained, and then the first bulk sink publishes. Only these two can end it
early.
-/
namespace Intake

variable {ρ : Type}

structure Published (ρ : Type) where
  stations : List (Station ρ)
  sink : String
  reply : Reply
  effects : List Effect

/-- Only the first bulk sink ever runs. -/
def publish (staged : List String) : List (Station ρ) → Option (Published ρ)
  | [] => none
  | s :: rest =>
    match s.step with
    | .bulk sink =>
      let p := sink.publish staged
      let after := { s with status := s.status.noteAll (notesOf p.actions) }
      some ⟨after :: rest, sink.name, p.reply,
        .bulkRan s.place sink.name :: p.actions.map (Action.effect s.place sink.name)⟩
    | .record _ _ =>
      (publish staged rest).map fun p => { p with stations := s :: p.stations }

structure Ran (ρ : Type) where
  progress : Progress ρ
  result : Except WorkflowError Unit
  effects : List Effect

def bulkResult (sink : String) : Reply → Except WorkflowError Unit
  | .done => .ok ()
  | .failed e => .error (.bulkSinkFailed sink e)
  | .panicked p => .error (.panicked p.message)

/-- The end of a run whose source had nothing left. -/
def runBulkSink (runId : String) (staged : List String) (g : Progress ρ) : Ran ρ :=
  let run := ("run_id", Log.Value.text runId)
  match publish staged g.stations with
  | none => ⟨g, .ok (), [.logged ⟨.debug, "No bulk sink configured", [run]⟩]⟩
  | some p =>
    ⟨{ g with stations := p.stations }, bulkResult p.sink p.reply,
      .logged ⟨.info, "Running bulk sink", [run, ("step", .text p.sink)]⟩ :: p.effects⟩

def Source.run [Record ρ] (s : Source ρ) (runId : String) (seconds : Float) (g : Progress ρ) :
    Ran ρ :=
  let d := s.drain seconds g
  match d.stop with
  | .exhausted =>
    let b := runBulkSink runId (stagedIn d.effects) d.progress
    ⟨b.progress, b.result, d.effects ++ b.effects⟩
  | .failed e => ⟨d.progress, .error (.sourceFailed s.name e), d.effects⟩
  | .panicked p => ⟨d.progress, .error (.panicked p.message), d.effects⟩

end Intake
