import Intake.Log
import Intake.Status.Snapshot

/-!
The status of a step while it runs. Counters and entries are kept side by side, since progress is
read from the counters alone.
-/
namespace Intake

inductive Note where
  | scanned (key : String)
  | filtered (key reason : String)
  | warning (key message : String)
  | failed (failure : Failure)

structure Status where
  name : String
  role : Role
  scanned : Nat
  filtered : Nat
  warnings : Nat
  failed : Nat
  failures : List Failure
  filteredRecords : List Filtered
  warningRecords : List Warning
  startedAt : Instant

namespace Status

def start (name : String) (role : Role) (startedAt : Instant) : Status :=
  ⟨name, role, 0, 0, 0, 0, [], [], [], startedAt⟩

def note (s : Status) : Note → Status
  | .scanned _ => { s with scanned := s.scanned + 1 }
  | .filtered key reason =>
    { s with
      filtered := s.filtered + 1
      filteredRecords := s.filteredRecords ++ [⟨key, reason⟩] }
  | .warning key message =>
    { s with
      warnings := s.warnings + 1
      warningRecords := s.warningRecords ++ [⟨key, message⟩] }
  | .failed f =>
    { s with
      failed := s.failed + 1
      failures := s.failures ++ [f] }

def noteAll (s : Status) (notes : List Note) : Status := notes.foldl note s

def counts (s : Status) : Counts := ⟨s.scanned, s.filtered, s.warnings, s.failed⟩

def snapshot (s : Status) : Snapshot :=
  ⟨s.name, s.role, s.counts, s.failures, s.filteredRecords, s.warningRecords, s.startedAt⟩

end Status

def Note.entry (step : String) : Note → Log.Entry
  | .scanned key => ⟨.debug, "Scanned", [("step", .text step), ("record", .text key)]⟩
  | .filtered key reason =>
    ⟨.debug, "Filtered", [("step", .text step), ("record", .text key), ("reason", .text reason)]⟩
  | .warning key message => ⟨.warn, message, [("step", .text step), ("record", .text key)]⟩
  | .failed f =>
    ⟨.warn, "Failed", [("step", .text step), ("record", .text f.name), ("error", .text f.error)]⟩

end Intake
