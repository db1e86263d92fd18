import Intake.Json.Record

/-!
How much a log entry matters.
-/
namespace Intake

inductive Severity where
  | debug
  | info
  | warn
  | error
deriving DecidableEq

namespace Severity

def text : Severity → String
  | .debug => "DEBUG"
  | .info => "INFO"
  | .warn => "WARN"
  | .error => "ERROR"

def directive : Severity → String
  | .debug => "debug"
  | .info => "info"
  | .warn => "warn"
  | .error => "error"

def rank : Severity → Nat
  | .debug => 0
  | .info => 1
  | .warn => 2
  | .error => 3

def passes (least s : Severity) : Bool := least.rank ≤ s.rank

def names : List (String × Severity) :=
  [Severity.debug, .info, .warn, .error].map fun s => (s.text, s)

def decode : Json.Decoder Severity := Json.Decode.variant names

def toJson (s : Severity) : Json := .text s.text

end Severity

end Intake
