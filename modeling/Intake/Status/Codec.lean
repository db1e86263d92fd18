import Intake.Status.Summary

/-!
Status data as JSON.
-/
namespace Intake

open Json.Shape (required defaulted optional constant)

namespace Failure

def shape : Json.Shape Failure :=
  constant Failure.mk <*> required "name" Json.Decode.text <*> required "error" Json.Decode.text
    <*> optional "stackTrace" Json.Decode.text <*> required "timestamp" Json.Decode.real

def decode : Json.Decoder Failure := Json.Decode.record "FailureRecord" shape

def toJson (f : Failure) : Json :=
  .object ([("name", .text f.name), ("error", .text f.error)]
    ++ Json.given "stackTrace" (f.stackTrace.map .text) ++ [("timestamp", .real f.timestamp)])

end Failure

namespace Filtered

def shape : Json.Shape Filtered :=
  constant Filtered.mk <*> required "key" Json.Decode.text <*> required "reason" Json.Decode.text

def decode : Json.Decoder Filtered := Json.Decode.record "FilteredRecord" shape

def toJson (f : Filtered) : Json := .object [("key", .text f.key), ("reason", .text f.reason)]

end Filtered

namespace Warning

def shape : Json.Shape Warning :=
  constant Warning.mk <*> required "key" Json.Decode.text <*> required "message" Json.Decode.text

def decode : Json.Decoder Warning := Json.Decode.record "WarningRecord" shape

def toJson (w : Warning) : Json := .object [("key", .text w.key), ("message", .text w.message)]

end Warning

namespace Counts

def shape : Json.Shape Counts :=
  constant Counts.mk <*> required "scanned" Json.Decode.nat <*> required "filtered" Json.Decode.nat
    <*> required "warnings" Json.Decode.nat <*> required "failed" Json.Decode.nat

def decode : Json.Decoder Counts := Json.Decode.record "StatusCounts" shape

def members (c : Counts) : List (String × Json) :=
  [("scanned", .nat c.scanned), ("filtered", .nat c.filtered), ("warnings", .nat c.warnings),
    ("failed", .nat c.failed)]

def toJson (c : Counts) : Json := .object c.members

end Counts

namespace Instant

def decode : Json.Decoder Instant :=
  Json.Decode.parsed "an RFC 3339 formatted date and time string" fun s =>
    (Instant.parse s).mapError Instant.Fault.message

def toJson (t : Instant) : Json := .text t.text

end Instant

namespace Snapshot

/-- All but the counters, which stand among the other members. -/
def shape : Json.Shape (Counts → Snapshot) :=
  constant (fun name role failures filtered warnings startedAt counts =>
      ⟨name, role, counts, failures, filtered, warnings, startedAt⟩)
    <*> required "name" Json.Decode.text <*> required "role" Role.decode
    <*> defaulted "failures" (Json.Decode.list Failure.decode) []
    <*> defaulted "filteredRecords" (Json.Decode.list Filtered.decode) []
    <*> defaulted "warningRecords" (Json.Decode.list Warning.decode) []
    <*> required "startedAt" Instant.decode

def decode : Json.Decoder Snapshot := Json.Decode.flattened "StatusSnapshot" shape Counts.shape

def toJson (s : Snapshot) : Json :=
  .object ([("name", .text s.name), ("role", s.role.toJson)] ++ s.counts.members ++
    [("failures", .list (s.failures.map Failure.toJson)),
      ("filteredRecords", .list (s.filtered.map Filtered.toJson)),
      ("warningRecords", .list (s.warnings.map Warning.toJson)),
      ("startedAt", s.startedAt.toJson)])

end Snapshot

namespace Summary

def shape : Json.Shape Summary :=
  constant Summary.mk <*> required "steps" (Json.Decode.list Snapshot.decode)

def decode : Json.Decoder Summary := Json.Decode.record "WorkflowSummary" shape

def toJson (s : Summary) : Json := .object [("steps", .list (s.steps.map Snapshot.toJson))]

end Summary

namespace Tolerance

def shape : Json.Shape Tolerance :=
  constant Tolerance.mk <*> required "max_failure_percent" Json.Decode.real

def decode : Json.Decoder Tolerance := Json.Decode.record "FailureTolerance" shape

def toJson (t : Tolerance) : Json := .object [("max_failure_percent", .real t.percent)]

end Tolerance

end Intake
