/-!
The four counters of a step, and the share of failures among the records they account for.
-/
namespace Intake

structure Counts where
  scanned : Nat
  filtered : Nat
  warnings : Nat
  failed : Nat
deriving DecidableEq

namespace Counts

def zero : Counts := ⟨0, 0, 0, 0⟩

/-- The records accounted for; a warning does not account for one. -/
def processed (c : Counts) : Nat := c.scanned + c.filtered + c.failed

def failureRatio (c : Counts) : Float :=
  if c.processed = 0 then 0.0
  else Float.ofNat c.failed / Float.ofNat c.processed

protected def add (a b : Counts) : Counts :=
  ⟨a.scanned + b.scanned, a.filtered + b.filtered, a.warnings + b.warnings, a.failed + b.failed⟩

instance : Add Counts := ⟨Counts.add⟩

end Counts

end Intake
