import Intake.Effect
import Intake.Error

/-!
Results together with what was done on the way to them.
-/
namespace Intake

inductive Interruption where
  | error (e : WorkflowError)
  | panic (p : Payload)

structure Traced (α : Type) where
  result : Except Interruption α
  effects : List Effect

namespace Traced

variable {α β : Type}

def tell (effects : List Effect) : Traced Unit := ⟨.ok (), effects⟩

def fail (e : WorkflowError) : Traced α := ⟨.error (.error e), []⟩

def ofExcept (r : Except WorkflowError α) : Traced α := ⟨r.mapError .error, []⟩

protected def bind (x : Traced α) (f : α → Traced β) : Traced β :=
  match x.result with
  | .ok a => ⟨(f a).result, x.effects ++ (f a).effects⟩
  | .error i => ⟨.error i, x.effects⟩

instance : Monad Traced where
  pure a := ⟨.ok a, []⟩
  bind := Traced.bind

end Traced

end Intake
