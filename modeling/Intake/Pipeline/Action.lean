import Intake.Status.Tracker

/-!
What a component does to its surroundings while it is called, apart from its answer.
-/
namespace Intake

inductive Action where
  | note (n : Note)
  | stage (key : String)
  | awaitProgress

def Action.note? : Action → Option Note
  | .note n => some n
  | _ => none

def notesOf (actions : List Action) : List Note := actions.filterMap Action.note?

end Intake
