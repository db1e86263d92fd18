import Intake.Pipeline.Action
import Intake.Record

/-!
Sources of records. A source answers as often as it is asked, also after it has stopped.
-/
namespace Intake

inductive Item (ρ : Type) where
  | record (r : ρ)
  | filtered (key reason : String)
  /-- The source could not read a record and goes on with the next one. -/
  | failed (failure : Failure)

namespace Item

variable {ρ : Type} [Record ρ]

def key : Item ρ → String
  | .record r => Record.key r
  | .filtered key _ => key
  | .failed f => f.name

def note : Item ρ → Note
  | .record r => .scanned (Record.key r)
  | .filtered key reason => .filtered key reason
  | .failed f => .failed f

end Item

inductive Stop where
  | exhausted
  | failed (error : StepError)
  | panicked (payload : Payload)

structure Pull (ρ : Type) where
  actions : List Action
  drawn : Except Stop (Item ρ)

/-- The answers of a source in their order, and the answer that it gives from then on. -/
structure Source (ρ : Type) where
  name : String
  pulls : List (Pull ρ)
  rest : Stop
  onClose : Reply

namespace Source

variable {ρ : Type}

def pull (s : Source ρ) (n : Nat) : Pull ρ :=
  s.pulls[n]?.getD ⟨[], .error s.rest⟩

def ofItems (name : String) (items : List (Item ρ)) (onClose : Reply) : Source ρ :=
  ⟨name, items.map fun i => ⟨[], .ok i⟩, .exhausted, onClose⟩

def failAfter (count : Nat) (e : StepError) (s : Source ρ) : Source ρ :=
  if count ≤ s.pulls.length then
    { s with
      pulls := s.pulls.take count
      rest := .failed e }
  else s

end Source

end Intake
