import Intake.Error

/-!
Configurations as JSON, and the two ways to get one: from text, and from data.
-/
namespace Intake

open Json.Shape (required defaulted optional constant)

namespace Uuid

def decode : Json.Decoder Uuid :=
  Json.Decode.parsed "a formatted UUID string" fun s =>
    (Uuid.parse s).mapError fun f => "UUID parsing failed: " ++ f.message

def toJson (u : Uuid) : Json := .text u.text

end Uuid

namespace Config

namespace Catalog

def shape : Json.Shape Catalog :=
  constant Catalog.mk <*> defaulted "hostPort" Json.Decode.text defaultHostPort
    <*> defaulted "forceEntityOverwriting" Json.Decode.bool false
    <*> defaulted "secretsManagerProvider" Json.Decode.text defaultProvider

def decode : Json.Decoder Catalog := Json.Decode.record "CatalogConfig" shape

def toJson (c : Catalog) : Json :=
  .object [("hostPort", .text c.hostPort),
    ("forceEntityOverwriting", .bool c.forceEntityOverwriting),
    ("secretsManagerProvider", .text c.secretsManagerProvider)]

end Catalog

namespace Source

def shape : Json.Shape Source :=
  constant Source.mk <*> required "type" Json.Decode.text
    <*> required "serviceName" Json.Decode.text
    <*> optional "serviceConnection" Connection.decode
    <*> defaulted "sourceConfig" Json.Decode.any .null

def decode : Json.Decoder Source := Json.Decode.record "SourceConfig" shape

def toJson (s : Source) : Json :=
  .object ([("type", .text s.sourceType), ("serviceName", .text s.serviceName)] ++
    Json.given "serviceConnection" (s.connection.map Connection.toJson) ++
    [("sourceConfig", s.settings)])

end Source

namespace Component

def shape : Json.Shape Component :=
  constant Component.mk <*> required "type" Json.Decode.text
    <*> defaulted "config" Json.Decode.any .null

def decode : Json.Decoder Component := Json.Decode.record "ComponentConfig" shape

def toJson (c : Component) : Json :=
  .object [("type", .text c.componentType), ("config", c.settings)]

end Component

namespace Settings

def shape : Json.Shape Settings :=
  constant Settings.mk <*> defaulted "loggerLevel" Severity.decode .info
    <*> defaulted "openMetadataServerConfig" Catalog.decode .default
    <*> defaulted "failureTolerance" Json.Decode.real 0.0
    <*> defaulted "reportIntervalSeconds" Json.Decode.nat defaultIntervalSeconds

def decode : Json.Decoder Settings := Json.Decode.record "WorkflowSettings" shape

def toJson (s : Settings) : Json :=
  .object [("loggerLevel", s.loggerLevel.toJson), ("openMetadataServerConfig", s.catalog.toJson),
    ("failureTolerance", .real s.failureTolerance),
    ("reportIntervalSeconds", .nat s.reportIntervalSeconds)]

end Settings

def shape : Json.Shape Config :=
  constant Config.mk <*> required "source" Source.decode
    <*> optional "processor" Component.decode
    <*> optional "stage" Component.decode
    <*> optional "sink" Component.decode
    <*> optional "bulkSink" Component.decode
    <*> defaulted "workflowConfig" Settings.decode .default
    <*> optional "pipelineRunId" Uuid.decode
    <*> optional "ingestionPipelineFQN" Json.Decode.text

def decode : Json.Decoder Config := Json.Decode.record "WorkflowConfig" shape

def toJson (c : Config) : Json :=
  .object ([("source", c.source.toJson)] ++
    Json.given "processor" (c.processor.map Component.toJson) ++
    Json.given "stage" (c.stage.map Component.toJson) ++
    Json.given "sink" (c.sink.map Component.toJson) ++
    Json.given "bulkSink" (c.bulkSink.map Component.toJson) ++
    [("workflowConfig", c.settings.toJson)] ++
    Json.given "pipelineRunId" (c.runId.map Uuid.toJson) ++
    Json.given "ingestionPipelineFQN" (c.pipelineFqn.map .text))

def validate (c : Config) : Except WorkflowError Unit :=
  match c.invalid? with
  | none => .ok ()
  | some cause => .error (.invalidConfig (.invalid cause))

def validated (read : Except Json.Fault Config) : Except WorkflowError Config :=
  match read with
  | .error fault => .error (.invalidConfig (.malformed fault))
  | .ok c => do
    c.validate
    return c

def ofData (v : Json) : Except WorkflowError Config :=
  validated (Json.decodeData decode v)

def ofText (s : String) : Except WorkflowError Config :=
  validated (Json.decodeText decode s)

end Config

end Intake
