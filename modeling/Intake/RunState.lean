import Intake.Json.Record

/-!
The state of a run, as it is reported to whoever started it.
-/
namespace Intake

inductive RunState where
  | running
  | success
  | partialSuccess
  | failed
deriving DecidableEq

namespace RunState

def text : RunState → String
  | .running => "running"
  | .success => "success"
  | .partialSuccess => "partialSuccess"
  | .failed => "failed"

def label : RunState → String
  | .running => "Running"
  | .success => "Success"
  | .partialSuccess => "PartialSuccess"
  | .failed => "Failed"

def isTerminal (s : RunState) : Bool := s != .running

def isSuccess : RunState → Bool
  | .success | .partialSuccess => true
  | _ => false

def names : List (String × RunState) :=
  [RunState.running, .success, .partialSuccess, .failed].map fun s => (s.text, s)

def decode : Json.Decoder RunState := Json.Decode.variant names

def toJson (s : RunState) : Json := .text s.text

end RunState

end Intake
