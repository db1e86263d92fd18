import Intake.Effect
import Intake.Pipeline.Step

/-!
A station is a step within a run: where it stands, what it has received, and its status.
-/
namespace Intake

def Action.effect (place : Nat) (component : String) : Action → Effect
  | .note n => .noted place component n
  | .stage key => .staged key
  | .awaitProgress => .progressAwaited

def Response.call {ρ : Type} (place : Nat) (step key : String) (r : Response ρ) : List Effect :=
  .ran place step key :: r.actions.map (Action.effect place step)

structure Station (ρ : Type) where
  /-- Counts the source as the first component. -/
  place : Nat
  step : Step ρ
  received : List ρ
  status : Status

/-- A station after a record: what goes on to the next one, and what was done. -/
structure Passage (ρ : Type) where
  station : Station ρ
  next : Option ρ
  effects : List Effect

namespace Station

variable {ρ : Type}

def start (startedAt : Instant) (place : Nat) (step : Step ρ) : Station ρ :=
  ⟨place, step, [], .start step.name step.role startedAt⟩

def startAll (startedAt : Instant) (steps : List (Step ρ)) : List (Station ρ) :=
  steps.mapIdx fun i s => start startedAt (i + 1) s

def component (s : Station ρ) : Component := .step s.place s.step.role s.step.name

/-- Hands a record to the step and notes what comes of it. A bulk sink lets every record pass. -/
def process [Record ρ] (seconds : Float) (s : Station ρ) (r : ρ) : Passage ρ :=
  match s.step with
  | .bulk _ => ⟨s, some r, []⟩
  | .record _ step =>
    let key := Record.key r
    let response := step.react s.received r
    let last := response.outcome.note seconds key
    let after :=
      { s with
        received := s.received ++ [r]
        status := s.status.noteAll (notesOf response.actions ++ [last]) }
    ⟨after, response.outcome.next?,
      response.call s.place step.name key ++ [.noted s.place step.name last]⟩

end Station

end Intake
