import Intake.Status.Tracker

/-!
What a list of notes does to a status. Each counter grows by the notes of its kind, and their
entries follow the earlier ones in the same order; nothing else changes.
-/
namespace Intake

namespace Note

def isScanned : Note → Bool
  | .scanned _ => true
  | _ => false

def filtered? : Note → Option Filtered
  | .filtered key reason => some ⟨key, reason⟩
  | _ => none

def warning? : Note → Option Warning
  | .warning key message => some ⟨key, message⟩
  | _ => none

def failure? : Note → Option Failure
  | .failed f => some f
  | _ => none

end Note

namespace Status

theorem noteAll_append (s : Status) (ns ms : List Note) :
    s.noteAll (ns ++ ms) = (s.noteAll ns).noteAll ms := by
  simp [noteAll]

theorem noteAll_eq (s : Status) (ns : List Note) :
    s.noteAll ns =
      { s with
        scanned := s.scanned + ns.countP Note.isScanned
        filtered := s.filtered + (ns.filterMap Note.filtered?).length
        warnings := s.warnings + (ns.filterMap Note.warning?).length
        failed := s.failed + (ns.filterMap Note.failure?).length
        failures := s.failures ++ ns.filterMap Note.failure?
        filteredRecords := s.filteredRecords ++ ns.filterMap Note.filtered?
        warningRecords := s.warningRecords ++ ns.filterMap Note.warning? } := by
  induction ns generalizing s with
  | nil => simp [noteAll]
  | cons n ns ih =>
    have first : s.noteAll (n :: ns) = (s.note n).noteAll ns := rfl
    rw [first, ih]
    cases n <;>
      simp [note, List.countP_cons, List.filterMap_cons, Note.isScanned, Note.filtered?,
        Note.warning?, Note.failure?, Nat.add_comm, Nat.add_left_comm]

end Status

end Intake
