import Intake.Severity

/-!
Log entries: a severity, a message, and named values.
-/
namespace Intake.Log

inductive Value where
  | text (s : String)
  | count (n : Nat)
  | ratio (x : Float)

structure Entry where
  severity : Severity
  message : String
  fields : List (String × Value)

def passing (least : Severity) (entries : List Entry) : List Entry :=
  entries.filter fun e => least.passes e.severity

end Intake.Log
