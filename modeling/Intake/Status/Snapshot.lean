import Intake.Role
import Intake.Status.Counts
import Intake.StepError
import Intake.Time.Instant

/-!
A copy of the status of one step: its counters and the entries behind them.
-/
namespace Intake

/-- A record that failed, or the step where no record is known. -/
structure Failure where
  name : String
  error : String
  stackTrace : Option String
  /-- Seconds since the start of 1970. -/
  timestamp : Float

namespace Failure

def ofText (timestamp : Float) (name error : String) : Failure := ⟨name, error, none, timestamp⟩

def withStackTrace (trace : String) (f : Failure) : Failure := { f with stackTrace := some trace }

/-- The whole chain of causes becomes the message, and a captured backtrace the stack trace. -/
def ofError (timestamp : Float) (name : String) (e : StepError) : Failure :=
  let f := ofText timestamp name e.text
  match e.backtrace with
  | some calls => f.withStackTrace calls
  | none => f

theorem ofError_eq (timestamp : Float) (name : String) (e : StepError) :
    ofError timestamp name e = ⟨name, e.text, e.backtrace, timestamp⟩ := by
  cases captured : e.backtrace <;> simp [ofError, ofText, withStackTrace, captured]

end Failure

structure Filtered where
  key : String
  reason : String
deriving DecidableEq

structure Warning where
  key : String
  message : String
deriving DecidableEq

structure Snapshot where
  name : String
  role : Role
  counts : Counts
  failures : List Failure
  filtered : List Filtered
  warnings : List Warning
  startedAt : Instant

end Intake
