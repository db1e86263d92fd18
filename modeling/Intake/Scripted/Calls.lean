import Intake.Effect

/-!
What a component was called for, read off the trace.
-/
namespace Intake.Scripted

structure Calls where
  /-- The keys of the records in their order; a bulk sink sees its own name when it runs. -/
  seen : List String
  closes : Nat

def Calls.saw (c : Calls) (key : String) : Bool := c.seen.contains key

def seenAt? (place : Nat) : Effect → Option String
  | .pulled _ key => if place = 0 then key else none
  | .ran at' _ key => if at' = place then some key else none
  | .bulkRan at' name => if at' = place then some name else none
  | _ => none

def closesAt (place : Nat) : Effect → Bool
  | .closed (.source _) _ => place == 0
  | .closed (.step at' _ _) _ => at' == place
  | _ => false

/-- The calls of the component at a place, where the source stands at place 0. -/
def callsAt (place : Nat) (trace : List Effect) : Calls :=
  ⟨trace.filterMap (seenAt? place), trace.countP (closesAt place)⟩

end Intake.Scripted
