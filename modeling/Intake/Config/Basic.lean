import Intake.Service.Connection
import Intake.Severity
import Intake.Status.Tolerance
import Intake.Time.Duration
import Intake.Uuid

/-!
The configuration of a workflow: its source, the components that follow it, and settings of the
run.
-/
namespace Intake

structure Config.Catalog where
  hostPort : String
  /-- The catalog must not be asked for missing connections. -/
  forceEntityOverwriting : Bool
  secretsManagerProvider : String
deriving DecidableEq

structure Config.Source where
  sourceType : String
  serviceName : String
  connection : Option Connection
  settings : Json

structure Config.Component where
  componentType : String
  settings : Json

structure Config.Settings where
  loggerLevel : Severity
  catalog : Config.Catalog
  failureTolerance : Float
  reportIntervalSeconds : Nat

structure Config where
  source : Config.Source
  processor : Option Config.Component
  stage : Option Config.Component
  sink : Option Config.Component
  bulkSink : Option Config.Component
  settings : Config.Settings
  runId : Option Uuid
  pipelineFqn : Option String

namespace Config

def defaultHostPort : String := "http://localhost:8585/api"

def defaultProvider : String := "db"

def Catalog.default : Catalog := ⟨defaultHostPort, false, defaultProvider⟩

def defaultIntervalSeconds : Nat := 60

def Settings.default : Settings := ⟨.info, .default, 0.0, defaultIntervalSeconds⟩

def Source.hasConnection (s : Source) : Bool :=
  match s.connection with
  | some c => !c.isEmpty
  | none => false

def minimal (sourceType serviceName : String) : Config where
  source := ⟨sourceType, serviceName, none, .null⟩
  processor := none
  stage := none
  sink := none
  bulkSink := none
  settings := .default
  runId := none
  pipelineFqn := none

def withConnection (connection : Connection) (c : Config) : Config :=
  { c with source := { c.source with connection := some connection } }

def withTolerance (percent : Float) (c : Config) : Config :=
  { c with settings := { c.settings with failureTolerance := percent } }

def tolerance (c : Config) : Tolerance := .ofPercent c.settings.failureTolerance

def reportInterval (c : Config) : Duration := .seconds c.settings.reportIntervalSeconds

inductive Invalid where
  | emptyType
  | emptyServiceName
  | toleranceOutOfRange (percent : Float)
  | zeroInterval

def Invalid.message : Invalid → String
  | .emptyType => "source.type must not be empty"
  | .emptyServiceName => "source.serviceName must not be empty"
  | .toleranceOutOfRange p =>
    "workflowConfig.failureTolerance must be a percentage in [0, 100], got " ++
      Decimal.plain.write p
  | .zeroInterval => "workflowConfig.reportIntervalSeconds must be positive"

def isBlank (s : String) : Bool := (Text.trimChars s.toList).isEmpty

/-- The first thing that is wrong, if anything is. -/
def invalid? (c : Config) : Option Invalid :=
  if isBlank c.source.sourceType then some .emptyType
  else if isBlank c.source.serviceName then some .emptyServiceName
  else if !(0.0 ≤ c.settings.failureTolerance && c.settings.failureTolerance ≤ 100.0) then
    some (.toleranceOutOfRange c.settings.failureTolerance)
  else if c.settings.reportIntervalSeconds = 0 then some .zeroInterval
  else none

end Config

end Intake
