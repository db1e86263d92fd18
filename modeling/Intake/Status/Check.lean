import Intake.Status.Summary
import Intake.Text.Quoted

/-!
Checks of a summary against what is expected of it.
-/
namespace Intake

structure Tally where
  scanned : Nat
  filtered : Nat
  failed : Nat
deriving DecidableEq

def Tally.text (t : Tally) : String :=
  "(" ++ toString t.scanned ++ ", " ++ toString t.filtered ++ ", " ++ toString t.failed ++ ")"

def Counts.tally (c : Counts) : Tally := ⟨c.scanned, c.filtered, c.failed⟩

def Counts.describe (c : Counts) : String :=
  Text.fields "StatusCounts" [("scanned", toString c.scanned), ("filtered", toString c.filtered),
    ("warnings", toString c.warnings), ("failed", toString c.failed)] false

inductive Mismatch where
  | noStep (name : String)
  | tally (step : String) (found expected : Tally)
  | processed (step : String) (found : Counts) (expected : Nat)
  | failures (found : List (String × Failure))

namespace Mismatch

def unequal (what found expected : String) : String :=
  "assertion `left == right` failed: " ++ what ++ "\n  left: " ++ found ++ "\n right: " ++ expected

def failureText (f : String × Failure) : String :=
  f.1 ++ ": " ++ f.2.name ++ " (" ++ f.2.error ++ ")"

def message : Mismatch → String
  | .noStep name => "Expected a status for step '" ++ name ++ "'"
  | .tally step found expected =>
    unequal ("Unexpected (scanned, filtered, failed) for step '" ++ step ++ "'") found.text
      expected.text
  | .processed step found expected =>
    unequal ("Expected scanned + filtered + failed == " ++ toString expected ++ " for step '" ++
      step ++ "', got " ++ found.describe) (toString found.processed) (toString expected)
  | .failures found =>
    "Expected no failures, got " ++
      Text.bracketed (found.map fun f => Text.quoted (failureText f))

end Mismatch

namespace Summary

def checkTally (s : Summary) (step : String) (expected : Tally) : Except Mismatch Unit :=
  match s.step? step with
  | none => .error (.noStep step)
  | some found =>
    if found.counts.tally = expected then .ok ()
    else .error (.tally step found.counts.tally expected)

def checkProcessed (s : Summary) (step : String) (expected : Nat) : Except Mismatch Unit :=
  match s.step? step with
  | none => .error (.noStep step)
  | some found =>
    if found.counts.processed = expected then .ok ()
    else .error (.processed step found.counts expected)

def checkNoFailures (s : Summary) : Except Mismatch Unit :=
  if s.failures.isEmpty then .ok () else .error (.failures s.failures)

end Summary

end Intake
