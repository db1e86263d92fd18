import Intake.Decimal.Places
import Intake.Status.Snapshot
import Intake.Status.Tolerance

/-!
All steps of a run together.
-/
namespace Intake

structure Summary where
  steps : List Snapshot

namespace Summary

def totals (s : Summary) : Counts :=
  s.steps.foldl (fun sum step => sum + step.counts) .zero

def failureRatio (s : Summary) : Float := s.totals.failureRatio

def hasFailures (s : Summary) : Bool := s.steps.any fun step => 0 < step.counts.failed

def failures (s : Summary) : List (String × Failure) :=
  s.steps.flatMap fun step => step.failures.map fun f => (step.name, f)

def step? (s : Summary) (name : String) : Option Snapshot :=
  s.steps.find? fun step => step.name == name

def state (s : Summary) (t : Tolerance) : RunState :=
  t.evaluate s.totals.failed s.totals.processed

def percent (ratio : Float) : String := Decimal.fixed 2 (ratio * 100.0) ++ "%"

def line (step : Snapshot) : String :=
  let c := step.counts
  step.name ++ " (" ++ step.role.text ++ "): scanned=" ++ toString c.scanned ++
    " filtered=" ++ toString c.filtered ++ " warnings=" ++ toString c.warnings ++
    " failed=" ++ toString c.failed ++ " failure_ratio=" ++ percent c.failureRatio ++ "\n"

def render (s : Summary) : String :=
  String.join (s.steps.map line) ++
    "Total: processed=" ++ toString s.totals.processed ++
    " failed=" ++ toString s.totals.failed ++
    " failure_ratio=" ++ percent s.totals.failureRatio

end Summary

end Intake
