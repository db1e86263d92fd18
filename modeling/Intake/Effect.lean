import Intake.Report
import Intake.Status.Tracker

/-!
The trace of a workflow: everything it does that can be seen from outside, in order. Logs, reports,
events and the calls that components receive are all read off the trace.
-/
namespace Intake

/-- What a workflow closes. A step is told apart from others of its name by its place, which counts
the source as the first component. -/
inductive Component where
  | catalog
  | source (name : String)
  | step (place : Nat) (role : Role) (name : String)
deriving DecidableEq

def Component.text : Component → String
  | .catalog => "catalog client"
  | .source name => Role.source.text ++ " '" ++ name ++ "'"
  | .step _ role name => role.text ++ " '" ++ name ++ "'"

inductive Effect where
  | logged (entry : Log.Entry)
  | lookedUp (kind : ServiceKind) (name : String)
  | assembling
  | factoryCalled (role : Role) (type : String)
  | constructed (component : Component)
  /-- The source is asked for an item, and gives one of this key or none. -/
  | pulled (source : String) (key : Option String)
  | ran (place : Nat) (step key : String)
  | bulkRan (place : Nat) (step : String)
  | noted (place : Nat) (step : String) (note : Note)
  | staged (key : String)
  | progressAwaited
  | timerStarted
  | timerStopped
  | emitted (type : String) (data : Option Json)
  | reported (report : Report)
  | closed (component : Component) (reply : Reply)

namespace Effect

def closeEntry (c : Component) : Reply → Log.Entry
  | .done => ⟨.debug, "Closed", [("component", .text c.text)]⟩
  | .failed e => ⟨.warn, "Failed to close: " ++ e.text, [("component", .text c.text)]⟩
  | .panicked p =>
    ⟨.warn, "Panicked while closing: " ++ p.message, [("component", .text c.text)]⟩

def entry? : Effect → Option Log.Entry
  | .logged e => some e
  | .noted _ step n => some (n.entry step)
  | .closed c reply => some (closeEntry c reply)
  | _ => none

def stagedKey? : Effect → Option String
  | .staged key => some key
  | _ => none

def report? : Effect → Option Report
  | .reported r => some r
  | _ => none

def emitted? : Effect → Option (String × Option Json)
  | .emitted type data => some (type, data)
  | _ => none

end Effect

def logOf (trace : List Effect) : List Log.Entry := trace.filterMap Effect.entry?

def stagedIn (trace : List Effect) : List String := trace.filterMap Effect.stagedKey?

def reportsIn (trace : List Effect) : List Report := trace.filterMap Effect.report?

def eventsIn (trace : List Effect) : List (String × Option Json) :=
  trace.filterMap Effect.emitted?

end Intake
