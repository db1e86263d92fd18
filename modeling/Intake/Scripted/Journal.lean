import Intake.Effect

/-!
A journal of a workflow: a line for each call that goes to somebody else.
-/
namespace Intake.Scripted

structure Watch where
  builder : Bool
  reporter : Bool
  events : Bool

def closedName : Component → String
  | .catalog => "catalog"
  | .source name => "source " ++ name
  | .step _ .bulkSink name => "bulk " ++ name
  | .step _ _ name => "step " ++ name

def line? (w : Watch) : Effect → Option String
  | .lookedUp kind name => some ("lookup " ++ kind.entityType ++ " " ++ name)
  | .assembling => if w.builder then some "build" else none
  | .factoryCalled role type => some ("factory " ++ role.text ++ ":" ++ type)
  | .pulled source _ => some ("next " ++ source)
  | .ran _ step key => some ("run " ++ step ++ " " ++ key)
  | .bulkRan _ step => some ("bulk " ++ step)
  | .emitted type _ => if w.events then some ("event " ++ type) else none
  | .reported r => if w.reporter then some ("report " ++ r.state.text) else none
  | .closed c _ => some ("close " ++ closedName c)
  | _ => none

def journal (w : Watch) (trace : List Effect) : List String := trace.filterMap (line? w)

end Intake.Scripted
