import Intake.Json.Record
import Intake.Text.Blank

/-!
The kinds of service that a connector takes metadata from, and which connectors belong to each.
-/
namespace Intake

inductive ServiceKind where
  | database
  | dashboard
  | messaging
  | pipeline
  | mlModel
  | storage
  | search
  | metadata
deriving DecidableEq

namespace ServiceKind

def text : ServiceKind → String
  | .database => "database"
  | .dashboard => "dashboard"
  | .messaging => "messaging"
  | .pipeline => "pipeline"
  | .mlModel => "mlModel"
  | .storage => "storage"
  | .search => "search"
  | .metadata => "metadata"

def entityType : ServiceKind → String
  | .database => "databaseService"
  | .dashboard => "dashboardService"
  | .messaging => "messagingService"
  | .pipeline => "pipelineService"
  | .mlModel => "mlmodelService"
  | .storage => "storageService"
  | .search => "searchService"
  | .metadata => "metadataService"

def all : List ServiceKind :=
  [.database, .dashboard, .messaging, .pipeline, .mlModel, .storage, .search, .metadata]

def names : List (String × ServiceKind) := all.map fun k => (k.text, k)

def decode : Json.Decoder ServiceKind := Json.Decode.variant names

def toJson (k : ServiceKind) : Json := .text k.text

def connectors : ServiceKind → List String
  | .database =>
    ["athena", "azuresql", "bigquery", "clickhouse", "databricks", "datalake", "db2", "deltalake",
      "druid", "dynamodb", "glue", "hive", "impala", "mariadb", "mongodb", "mssql", "mysql",
      "oracle", "pinotdb", "postgres", "presto", "redshift", "salesforce", "singlestore",
      "snowflake", "sqlite", "trino", "vertica"]
  | .dashboard =>
    ["domodashboard", "lightdash", "looker", "metabase", "mode", "powerbi", "qliksense",
      "quicksight", "redash", "sigma", "superset", "tableau"]
  | .messaging => ["kafka", "kinesis", "redpanda"]
  | .pipeline =>
    ["airbyte", "airflow", "dagster", "databrickspipeline", "dbtcloud", "fivetran",
      "gluepipeline", "nifi", "spline"]
  | .mlModel => ["mlflow", "sagemaker"]
  | .storage => ["adls", "gcs", "s3"]
  | .search => ["elasticsearch", "opensearch"]
  | .metadata => ["amundsen", "atlas", "openmetadata"]

/-- The endings that stand for another use of the same connector, the longer ones first. -/
def suffixes : List String := ["-usage", "usage", "-lineage", "lineage"]

def dropSuffix? (cs suffix : List Char) : Option (List Char) :=
  if suffix.isSuffixOf cs then some (cs.take (cs.length - suffix.length)) else none

/-- A connector name without the first ending that it has. -/
def baseName (cs : List Char) : List Char :=
  (suffixes.findSome? fun s => dropSuffix? cs s.toList).getD cs

def ofSourceType? (sourceType : String) : Option ServiceKind :=
  let base := String.ofList (baseName ((Text.trimChars sourceType.toList).map Char.toLower))
  all.find? fun k => k.connectors.contains base

end ServiceKind

end Intake
