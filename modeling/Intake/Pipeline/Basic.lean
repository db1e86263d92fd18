import Intake.Pipeline.Source
import Intake.Pipeline.Step
import Intake.Traced

/-!
A pipeline is a source and the steps after it. A builder makes one from a configuration.
-/
namespace Intake

structure Pipeline (ρ : Type) where
  source : Source ρ
  steps : List (Step ρ)

namespace Pipeline

variable {ρ : Type}

/-- How many of the steps have a role; the source is not a step. -/
def countRole (p : Pipeline ρ) (role : Role) : Nat :=
  p.steps.countP fun s => s.role == role

def describe (p : Pipeline ρ) : String :=
  Text.fields "Pipeline" [("source", Text.quoted p.source.name),
    ("steps", Text.bracketed (p.steps.map Step.describe))] false

/-- The components in the order in which they are closed. -/
def components (p : Pipeline ρ) : List Component :=
  .source p.source.name :: p.steps.mapIdx fun i s => .step (i + 1) s.role s.name

end Pipeline

/-- Makes a pipeline from a configuration in which the connection is known. -/
abbrev PipelineBuilder (ρ : Type) := Config → Traced (Pipeline ρ)

/-- A pipeline that lies ready and is given away once. -/
structure Prebuilt (ρ : Type) where
  pipeline : Option (Pipeline ρ)
  builds : Nat

namespace Prebuilt

variable {ρ : Type}

def ofPipeline (p : Pipeline ρ) : Prebuilt ρ := ⟨some p, 0⟩

def take (b : Prebuilt ρ) : Except WorkflowError (Pipeline ρ) × Prebuilt ρ :=
  (match b.pipeline with
    | some p => .ok p
    | none => .error (.invalidConfig (.other "pipeline was already built")),
    ⟨none, b.builds + 1⟩)

def builder (b : Prebuilt ρ) : PipelineBuilder ρ := fun _ => do
  let p ← Traced.ofExcept b.take.1
  Traced.tell (p.components.map .constructed)
  return p

end Prebuilt

end Intake
