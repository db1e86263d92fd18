import Intake.RunState

/-!
The verdict on a run: how large a share of failures still counts as a partial success.
-/
namespace Intake

structure Tolerance where
  percent : Float

namespace Tolerance

/-- A percentage is brought into the range from 0 to 100; one that is no number stays. -/
def ofPercent (p : Float) : Tolerance :=
  ⟨if p < 0.0 then 0.0 else if 100.0 < p then 100.0 else p⟩

def strict : Tolerance := ofPercent 0.0

/-- A failed record counts as processed even where the totals say otherwise. -/
def evaluate (t : Tolerance) (failed processed : Nat) : RunState :=
  if failed = 0 then .success
  else if Float.ofNat failed * 100.0 / Float.ofNat (max processed failed) ≤ t.percent then
    .partialSuccess
  else .failed

end Tolerance

end Intake
