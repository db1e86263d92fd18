import Intake.Pipeline.Action
import Intake.Record
import Intake.Role

/-!
The steps after the source. A record step may remember the records that it has had, so what it does
with one is a function of the earlier ones too.
-/
namespace Intake

inductive Outcome (ρ : Type) where
  | next (r : ρ)
  | consumed
  | filtered (reason : String)
  | failed (error : StepError)
  | panicked (payload : Payload)

namespace Outcome

variable {ρ : Type}

def next? : Outcome ρ → Option ρ
  | .next r => some r
  | _ => none

/-- What the status of a step says about a record of the given key; a panic fails the record alone. -/
def note (seconds : Float) (key : String) : Outcome ρ → Note
  | .next _ | .consumed => .scanned key
  | .filtered reason => .filtered key reason
  | .failed e => .failed (.ofError seconds key e)
  | .panicked p => .failed (.ofText seconds key ("step panicked: " ++ p.message))

end Outcome

structure Response (ρ : Type) where
  actions : List Action
  outcome : Outcome ρ

structure RecordStep (ρ : Type) where
  name : String
  /-- What is done with a record after the given ones, the oldest of which is first. -/
  react : List ρ → ρ → Response ρ
  onClose : Reply

def RecordStep.responses {ρ : Type} (s : RecordStep ρ) : List ρ → List ρ → List (Response ρ)
  | _, [] => []
  | earlier, r :: rest => s.react earlier r :: s.responses (earlier ++ [r]) rest

structure Publication where
  actions : List Action
  reply : Reply

/-- A step that runs once, when the source has nothing left. -/
structure BulkSink where
  name : String
  /-- What is done with the keys that were left for it. -/
  publish : List String → Publication
  onClose : Reply

inductive Step (ρ : Type) where
  | record (role : RecordRole) (step : RecordStep ρ)
  | bulk (sink : BulkSink)

namespace Step

variable {ρ : Type}

def role : Step ρ → Role
  | .record role _ => role.toRole
  | .bulk _ => .bulkSink

def name : Step ρ → String
  | .record _ s => s.name
  | .bulk s => s.name

def onClose : Step ρ → Reply
  | .record _ s => s.onClose
  | .bulk s => s.onClose

def describe (s : Step ρ) : String :=
  Text.fields "Step" [("role", s.role.label), ("name", Text.quoted s.name)] false

end Step

end Intake
