import Intake.Json.Record

/-!
What a workflow is for. All kinds run in the same way; the kind labels what they report.
-/
namespace Intake

inductive Kind where
  | ingestion
  | lineage
  | usage
  | profiler
  | testSuite
  | dataInsight
deriving DecidableEq

namespace Kind

def text : Kind → String
  | .ingestion => "ingestion"
  | .lineage => "lineage"
  | .usage => "usage"
  | .profiler => "profiler"
  | .testSuite => "test_suite"
  | .dataInsight => "data_insight"

def label : Kind → String
  | .ingestion => "Ingestion"
  | .lineage => "Lineage"
  | .usage => "Usage"
  | .profiler => "Profiler"
  | .testSuite => "TestSuite"
  | .dataInsight => "DataInsight"

def names : List (String × Kind) :=
  [Kind.ingestion, .lineage, .usage, .profiler, .testSuite, .dataInsight].map fun k => (k.text, k)

def decode : Json.Decoder Kind := Json.Decode.variant names

def toJson (k : Kind) : Json := .text k.text

end Kind

end Intake
