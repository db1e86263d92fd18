import Intake.Config.Basic
import Intake.Role
import Intake.StepError

/-!
The errors that end a workflow, or keep it from being built. Trouble with a single record is not
among them.
-/
namespace Intake

inductive TimerError where
  | alreadyStarted (name : String)
  | zeroInterval (name : String)
  | spawnFailed (name reason : String)

def TimerError.message : TimerError → String
  | .alreadyStarted name => "Timer '" ++ name ++ "' was already started"
  | .zeroInterval name => "Timer '" ++ name ++ "' needs a non-zero interval"
  | .spawnFailed name reason => "Timer '" ++ name ++ "' could not spawn its thread: " ++ reason

inductive ConfigFault where
  | malformed (fault : Json.Fault)
  | invalid (cause : Config.Invalid)
  | other (reason : String)

def ConfigFault.message : ConfigFault → String
  | .malformed fault => fault.message
  | .invalid cause => cause.message
  | .other reason => reason

inductive WorkflowError where
  | invalidConfig (fault : ConfigFault)
  | unknownSourceType (sourceType : String)
  | unknownComponent (role : Role) (componentType : String)
  | connectionNotFound (service : String)
  | lookupFailed (service provider : String) (error : StepError)
  | sourceFailed (source : String) (error : StepError)
  | bulkSinkFailed (sink : String) (error : StepError)
  | panicked (message : String)
  | alreadyExecuted (runId : String)
  | stopped (runId : String)
  | executionFailed (state : RunState) (failed processed : Nat)
  | timer (error : TimerError)

namespace WorkflowError

def missingConnectionHint : String :=
  "If it exists in the catalog, make sure the ingestion bot token is valid and that the workflow " ++
    "is deployed with the latest one. If this error persists, recreate the token and redeploy " ++
    "the workflow."

def message : WorkflowError → String
  | .invalidConfig fault => "Invalid workflow configuration: " ++ fault.message
  | .unknownSourceType t => "Unknown source type '" ++ t ++ "': cannot infer the service type"
  | .unknownComponent role t => "No " ++ role.text ++ " registered for type '" ++ t ++ "'"
  | .connectionNotFound service =>
    "Error getting the service [" ++ service ++ "] from the API. " ++ missingConnectionHint
  | .lookupFailed service provider e =>
    "Unknown error getting service connection for service name [" ++ service ++
      "] using the secrets manager provider [" ++ provider ++ "]: " ++ e.text
  | .sourceFailed source e => "Source '" ++ source ++ "' failed: " ++ e.text
  | .bulkSinkFailed sink e => "Bulk sink '" ++ sink ++ "' failed: " ++ e.text
  | .panicked m => "Workflow panicked: " ++ m
  | .alreadyExecuted runId => "Workflow run " ++ runId ++ " was already executed"
  | .stopped runId => "Workflow run " ++ runId ++ " was stopped before it executed"
  | .executionFailed state failed processed =>
    "Workflow finished with state " ++ state.text ++ ": " ++ toString failed ++ " of " ++
      toString processed ++ " records failed"
  | .timer e => e.message

def causes : WorkflowError → List String
  | .lookupFailed _ _ e | .sourceFailed _ e | .bulkSinkFailed _ e => e.messages
  | .timer e => [e.message]
  | _ => []

def isConfiguration : WorkflowError → Bool
  | .invalidConfig _ | .unknownSourceType _ | .unknownComponent _ _ | .connectionNotFound _
  | .lookupFailed _ _ _ => true
  | _ => false

def isStructural : WorkflowError → Bool
  | .sourceFailed _ _ | .bulkSinkFailed _ _ => true
  | _ => false

end WorkflowError

end Intake
