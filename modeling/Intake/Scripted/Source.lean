import Intake.Pipeline.Source

/-!
Sources that follow a script.
-/
namespace Intake.Scripted

inductive Line (ρ : Type) where
  | item (i : Item ρ)
  | stop (s : Stop)
  | warning (key message : String)
  | awaitProgress

variable {ρ : Type}

/-- The pulls that a script answers; `pending` is what was done since the last one. -/
def pulls : List Action → List (Line ρ) → List (Pull ρ)
  | [], [] => []
  | pending, [] => [⟨pending, .error .exhausted⟩]
  | pending, .item i :: rest => ⟨pending, .ok i⟩ :: pulls [] rest
  | pending, .stop s :: rest => ⟨pending, .error s⟩ :: pulls [] rest
  | pending, .warning key message :: rest =>
    pulls (pending ++ [.note (.warning key message)]) rest
  | pending, .awaitProgress :: rest => pulls (pending ++ [.awaitProgress]) rest

def source (name : String) (script : List (Line ρ)) (onClose : Reply) : Source ρ :=
  ⟨name, pulls [] script, .exhausted, onClose⟩

def numbered [Record ρ] (start : String) (count : Nat) : List (Item ρ) :=
  (List.range count).map fun i => .record (Record.named (start ++ toString i))

end Intake.Scripted
