import Intake.Json.Printer
import Intake.Log
import Intake.StepError

/-!
Where progress and summary events go.
-/
namespace Intake

def progressEvent : String := "workflow.progress"

def summaryEvent : String := "workflow.summary"

def dataOfType (type : String) (events : List (String × Option Json)) : List (Option Json) :=
  (events.filter fun e => e.1 == type).map (·.2)

/-- What is logged about an event, and whether taking it panics. -/
structure EventSink where
  entries : String → Option Json → List Log.Entry
  panics : String → Option Json → Option Payload

namespace EventSink

def silent : EventSink := ⟨fun _ _ => [], fun _ _ => none⟩

def logging (severity : Severity) : EventSink where
  entries := fun type data =>
    [⟨match severity with
      | .debug => .debug
      | _ => .info, (data.map Json.print).getD "", [("event_type", .text type)]⟩]
  panics := fun _ _ => none

end EventSink

end Intake
