import Intake.Proofs.Noting
import Intake.Run.Drain

/-!
A component on its own. What a source yields up to its first stop, and what becomes of a step that
gets a list of records while nothing else runs, said without the loop that drives them.
-/
namespace Intake

variable {ρ : Type}

namespace Item

def record? : Item ρ → Option ρ
  | .record r => some r
  | _ => none

end Item

def itemsOf : List (Pull ρ) → List (Item ρ)
  | [] => []
  | p :: ps =>
    match p.drawn with
    | .ok item => item :: itemsOf ps
    | .error _ => []

def recordsOf (ps : List (Pull ρ)) : List ρ := (itemsOf ps).filterMap Item.record?

namespace Source

def items (s : Source ρ) : List (Item ρ) := itemsOf s.pulls

def records (s : Source ρ) : List ρ := recordsOf s.pulls

end Source

namespace Outcome

/-- The step is done with the record, whether or not it passes one on. -/
def isScanned : Outcome ρ → Bool
  | .next _ | .consumed => true
  | _ => false

def filtered? (key : String) : Outcome ρ → Option Filtered
  | .filtered reason => some ⟨key, reason⟩
  | _ => none

def failure? (seconds : Float) (key : String) : Outcome ρ → Option Failure
  | .failed e => some ⟨key, e.text, e.backtrace, seconds⟩
  | .panicked p => some ⟨key, "step panicked: " ++ p.message, none, seconds⟩
  | _ => none

theorem note_failure {seconds : Float} {key : String} {o : Outcome ρ} {f : Failure}
    (failure : o.failure? seconds key = some f) : o.note seconds key = .failed f := by
  cases o <;> cases failure
  case failed e => exact congrArg Note.failed (Failure.ofError_eq seconds key e)
  case panicked => rfl

end Outcome

def Response.warnings (a : Response ρ) : List Warning :=
  (notesOf a.actions).filterMap Note.warning?

def RecordStep.answers (s : RecordStep ρ) (rs : List ρ) : List (ρ × Response ρ) :=
  rs.zip (s.responses [] rs)

namespace Step

def WarnsOnly : Step ρ → Prop
  | .record _ s => ∀ earlier r, ∀ n ∈ notesOf (s.react earlier r).actions,
      ∃ key message, n = .warning key message
  | .bulk _ => True

/-- The records that are handed to the step; a bulk sink is handed none. -/
def handed : Step ρ → List ρ → List ρ
  | .record _ _, rs => rs
  | .bulk _, _ => []

def outputs : Step ρ → List ρ → List ρ
  | .record _ s, rs => (s.answers rs).filterMap fun a => a.2.outcome.next?
  | .bulk _, rs => rs

/-- The status of the step when these records have come to it and nothing else has happened. -/
def statusAfter [Record ρ] (startedAt : Instant) (seconds : Float) : Step ρ → List ρ → Status
  | .bulk sink, _ => ⟨sink.name, .bulkSink, 0, 0, 0, 0, [], [], [], startedAt⟩
  | .record role s, rs =>
    let answers := s.answers rs
    let failures := answers.filterMap fun a => a.2.outcome.failure? seconds (Record.key a.1)
    let filtered := answers.filterMap fun a => a.2.outcome.filtered? (Record.key a.1)
    let warnings := answers.flatMap fun a => a.2.warnings
    ⟨s.name, role.toRole, answers.countP fun a => a.2.outcome.isScanned, filtered.length,
      warnings.length, failures.length, failures, filtered, warnings, startedAt⟩

end Step

/-- The stations when each step has had all its records before the next one got any. -/
def breadthFirst [Record ρ] (startedAt : Instant) (seconds : Float) (place : Nat) :
    List (Step ρ) → List ρ → List (Station ρ)
  | [], _ => []
  | s :: rest, rs =>
    ⟨place, s, s.handed rs, s.statusAfter startedAt seconds rs⟩ ::
      breadthFirst startedAt seconds (place + 1) rest (s.outputs rs)

end Intake
