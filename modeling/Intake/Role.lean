import Intake.Json.Record

/-!
The part that a component plays in a pipeline.
-/
namespace Intake

inductive Role where
  | source
  | processor
  | stage
  | sink
  | bulkSink
deriving DecidableEq

namespace Role

def text : Role → String
  | .source => "source"
  | .processor => "processor"
  | .stage => "stage"
  | .sink => "sink"
  | .bulkSink => "bulk_sink"

def label : Role → String
  | .source => "Source"
  | .processor => "Processor"
  | .stage => "Stage"
  | .sink => "Sink"
  | .bulkSink => "BulkSink"

def isPerRecord : Role → Bool
  | .processor | .stage | .sink => true
  | .source | .bulkSink => false

def all : List Role := [.source, .processor, .stage, .sink, .bulkSink]

def names : List (String × Role) := all.map fun r => (r.text, r)

def decode : Json.Decoder Role := Json.Decode.variant names

def toJson (r : Role) : Json := .text r.text

end Role

inductive RecordRole where
  | processor
  | stage
  | sink
deriving DecidableEq

def RecordRole.toRole : RecordRole → Role
  | .processor => .processor
  | .stage => .stage
  | .sink => .sink

end Intake
