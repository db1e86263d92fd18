import Intake.Proofs.Noting
import Intake.Status.Summary
import Mathlib.Data.List.Forall2

/-!
What a status says, apart from whose it is and when things happened: its counters, and its entries
without their moments. Ledgers add up as the notes behind them follow one another, and the order of
the notes shows in the order of the entries only.
-/
namespace Intake

def Failure.undated (f : Failure) : Failure := { f with timestamp := 0.0 }

def Note.undated : Note → Note
  | .failed f => .failed f.undated
  | n => n

structure Ledger where
  counts : Counts
  failures : List Failure
  filtered : List Filtered
  warnings : List Warning

def Snapshot.ledger (s : Snapshot) : Ledger :=
  ⟨s.counts, s.failures.map Failure.undated, s.filtered, s.warnings⟩

def Status.ledger (s : Status) : Ledger := s.snapshot.ledger

namespace Ledger

def blank : Ledger := ⟨.zero, [], [], []⟩

protected def append (a b : Ledger) : Ledger :=
  ⟨a.counts + b.counts, a.failures ++ b.failures, a.filtered ++ b.filtered,
    a.warnings ++ b.warnings⟩

instance : Append Ledger := ⟨Ledger.append⟩

/-- The ledger of a status that has these notes and nothing else. -/
def ofNotes (ns : List Note) : Ledger where
  counts :=
    ⟨ns.countP Note.isScanned, (ns.filterMap Note.filtered?).length,
      (ns.filterMap Note.warning?).length, (ns.filterMap Note.failure?).length⟩
  failures := (ns.filterMap Note.failure?).map Failure.undated
  filtered := ns.filterMap Note.filtered?
  warnings := ns.filterMap Note.warning?

/-- The same counters, and the same entries in some order. -/
structure Shuffled (a b : Ledger) : Prop where
  counts : a.counts = b.counts
  failures : a.failures.Perm b.failures
  filtered : a.filtered.Perm b.filtered
  warnings : a.warnings.Perm b.warnings

theorem blank_append (a : Ledger) : blank ++ a = a := by
  obtain ⟨⟨scanned, filtered, warnings, failed⟩, _, _, _⟩ := a
  have counts : Counts.zero + ⟨scanned, filtered, warnings, failed⟩ =
      ⟨scanned, filtered, warnings, failed⟩ := by
    simp only [HAdd.hAdd, Add.add, Counts.add, Counts.zero]
    simp
  exact congrArg (Ledger.mk · _ _ _) counts

theorem ofNotes_append (ns ms : List Note) : ofNotes (ns ++ ms) = ofNotes ns ++ ofNotes ms := by
  simp only [ofNotes, List.countP_append, List.filterMap_append, List.length_append,
    List.map_append]
  rfl

theorem ofNotes_perm {ns ms : List Note} (same : ns.Perm ms) :
    (ofNotes ns).Shuffled (ofNotes ms) where
  counts := by
    simp only [ofNotes, same.countP_eq, (same.filterMap _).length_eq]
  failures := (same.filterMap _).map _
  filtered := same.filterMap _
  warnings := same.filterMap _

theorem ofNotes_undated (ns : List Note) : ofNotes (ns.map Note.undated) = ofNotes ns := by
  induction ns with
  | nil => rfl
  | cons n ns ih =>
    have first : ofNotes [n.undated] = ofNotes [n] := by cases n <;> rfl
    have split : ∀ (m : Note) (ms : List Note), ofNotes (m :: ms) = ofNotes [m] ++ ofNotes ms :=
      fun m ms => ofNotes_append [m] ms
    rw [List.map_cons, split, split n, first, ih]

end Ledger

theorem Status.ledger_noteAll (s : Status) (ns : List Note) :
    (s.noteAll ns).ledger = s.ledger ++ .ofNotes ns := by
  simp only [ledger, Snapshot.ledger, snapshot, counts, noteAll_eq, List.map_append]
  rfl

theorem Status.ledger_start (name : String) (role : Role) (startedAt : Instant) :
    (start name role startedAt).ledger = .blank :=
  rfl

theorem Summary.totals_of_ledgers {s t : Summary}
    (same : List.Forall₂ Ledger.Shuffled (s.steps.map Snapshot.ledger)
      (t.steps.map Snapshot.ledger)) : s.totals = t.totals := by
  have counted : ∀ u : Summary, u.totals =
      ((u.steps.map Snapshot.ledger).map Ledger.counts).foldl (· + ·) .zero := by
    intro u
    simp only [totals, List.map_map, List.foldl_map]
    rfl
  have counts : ∀ {as bs : List Ledger}, List.Forall₂ Ledger.Shuffled as bs →
      as.map Ledger.counts = bs.map Ledger.counts := by
    intro as bs alike
    induction alike with
    | nil => rfl
    | cons first _ ih => rw [List.map_cons, List.map_cons, first.counts, ih]
  rw [counted, counted, counts same]

end Intake
