import Intake.Pipeline.Registry
import Intake.Proofs.Building
import Intake.Scripted.Sample
import Mathlib.Data.List.Induction

/-!
What a registry assembles. Whatever was registered before, and in whatever order, a registry gives
exactly the components that a configuration asks for, in the order of the pipeline, each made by the
factory that was registered last under its role and its type. If one of them cannot be had, the
first of these is named, and no factory after it is called.
-/
namespace Intake

variable {ρ : Type}

inductive Registration (ρ : Type) where
  | source (type : String) (factory : SourceFactory ρ)
  | step (role : RecordRole) (type : String) (factory : StepFactory (RecordStep ρ))
  | bulkSink (type : String) (factory : StepFactory BulkSink)

namespace Registration

def role : Registration ρ → Role
  | .source _ _ => .source
  | .step role _ _ => role.toRole
  | .bulkSink _ _ => .bulkSink

def type : Registration ρ → String
  | .source type _ => type
  | .step _ type _ => type
  | .bulkSink type _ => type

def source? : Registration ρ → Option (String × SourceFactory ρ)
  | .source type f => some (type, f)
  | _ => none

def step? : Registration ρ → Option ((RecordRole × String) × StepFactory (RecordStep ρ))
  | .step role type f => some ((role, type), f)
  | _ => none

def bulkSink? : Registration ρ → Option (String × StepFactory BulkSink)
  | .bulkSink type f => some (type, f)
  | _ => none

/-- The registration that counts for a role and a type. -/
def latest (history : List (Registration ρ)) (role : Role) (type : String) :
    Option (Registration ρ) :=
  history.reverse.find? fun r => r.role = role ∧ r.type = type

end Registration

namespace Config

def Section.role : Section → Role
  | .record role _ => role.toRole
  | .bulk _ => .bulkSink

def Section.type : Section → String
  | .record _ c => c.componentType
  | .bulk c => c.componentType

inductive Want where
  | source (type : String)
  | step (s : Section)

namespace Want

def role : Want → Role
  | .source _ => .source
  | .step s => s.role

def type : Want → String
  | .source type => type
  | .step s => s.type

def key (w : Want) : Role × String := (w.role, w.type)

end Want

def wants (c : Config) : List Want := .source c.source.sourceType :: c.sections.map .step

end Config

inductive Part (ρ : Type) where
  | source (s : Source ρ)
  | step (s : Step ρ)

def Pipeline.parts (p : Pipeline ρ) : List (Part ρ) := .source p.source :: p.steps.map .step

namespace Registration

def stepOf (config : Config) (r : Registration ρ) :
    Config.Section → Option (Except WorkflowError (Step ρ))
  | .record role c => r.step?.map fun e => (e.2 c config).map (.record role)
  | .bulk c => r.bulkSink?.map fun e => (e.2 c config).map .bulk

def partOf (config : Config) (r : Registration ρ) :
    Config.Want → Option (Except WorkflowError (Part ρ))
  | .source _ => r.source?.map fun e => (e.2 config).map .source
  | .step s => (r.stepOf config s).map fun made => made.map .step

/-- What is given for a component: the answer of the factory that was registered last for it. -/
def offered (history : List (Registration ρ)) (config : Config) (w : Config.Want) :
    Option (Except WorkflowError (Part ρ)) :=
  (latest history w.role w.type).bind fun r => r.partOf config w

end Registration

def Effect.factory? : Effect → Option (Role × String)
  | .factoryCalled role type => some (role, type)
  | _ => none

def factoriesIn (trace : List Effect) : List (Role × String) := trace.filterMap Effect.factory?

theorem factoriesIn_append (a b : List Effect) :
    factoriesIn (a ++ b) = factoriesIn a ++ factoriesIn b :=
  List.filterMap_append

namespace Registry

def register (g : Registry ρ) : Registration ρ → Registry ρ
  | .source type f => g.registerSource type f
  | .step role type f => g.registerStep role type f
  | .bulkSink type f => g.registerBulkSink type f

def ofHistory (history : List (Registration ρ)) : Registry ρ := history.foldl register empty

section Histories

variable (history : List (Registration ρ))

end Histories

end Registry

def Config.Want.outcome {α : Type} (w : Config.Want) :
    Option (Except WorkflowError α) → Except Interruption α
  | none => .error (.error (.unknownComponent w.role w.type))
  | some made => made.mapError .error

def Config.Want.called {α : Type} (w : Config.Want) : Option α → List (Role × String)
  | none => []
  | some _ => [w.key]

/-- A result, and the factories that were called on the way to it. -/
structure Traced.Gives {α : Type} (t : Traced α) (result : Except Interruption α)
    (called : List (Role × String)) : Prop where
  result : t.result = result
  called : factoriesIn t.effects = called

namespace Traced.Gives

variable {α β : Type} {t : Traced α} {f : α → Traced β} {before after : List (Role × String)}
  {result : Except Interruption β}

theorem bind {a : α} (first : t.Gives (.ok a) before) (next : (f a).Gives result after) :
    (t >>= f).Gives result (before ++ after) := by
  rw [Traced.bind_of_ok first.result]
  refine ⟨next.result, ?_⟩
  rw [factoriesIn_append, first.called, next.called]

theorem stop {i : Interruption} (first : t.Gives (.error i) before) :
    (t >>= f).Gives (.error i) before := by
  rw [Traced.bind_of_error first.result]
  exact ⟨rfl, first.called⟩

theorem map {g : α → β} {x : Except Interruption α} (first : t.Gives x before) :
    (t >>= fun a => pure (g a)).Gives (x.map g) before := by
  cases x with
  | error i => exact first.stop
  | ok a =>
    have both : (t >>= fun a => pure (g a)).Gives (.ok (g a)) (before ++ []) :=
      first.bind ⟨rfl, rfl⟩
    rwa [List.append_nil] at both

end Traced.Gives

namespace Registry

section Building

variable (history : List (Registration ρ)) (config : Config)

def Supplied (ws : List Config.Want) (parts : List (Part ρ)) : Prop :=
  ws.map (Registration.offered history config) = parts.map fun part => some (.ok part)

end Building

section Outcomes

variable {history : List (Registration ρ)} {config : Config} {w : Config.Want}
  {before after ws : List Config.Want} {parts : List (Part ρ)}

theorem Supplied.cons (supplied : Supplied history config (w :: ws) parts) :
    ∃ part rest, parts = part :: rest ∧
      Registration.offered history config w = some (.ok part) ∧
      Supplied history config ws rest := by
  cases parts with
  | nil => cases supplied
  | cons part rest =>
    obtain ⟨first, others⟩ := List.cons.inj supplied
    exact ⟨part, rest, rfl, first, others⟩

section One

variable {α : Type} {t : Traced α} {given : Option (Except WorkflowError α)} {wrap : α → Part ρ}

end One

end Outcomes

section Agreeing

variable {history other : List (Registration ρ)} {config : Config}

end Agreeing

/-- What a registry makes of a configuration after these calls. -/
structure Assembles (history : List (Registration ρ)) (config : Config)
    (made : Traced (Pipeline ρ)) : Prop where
  /-- Where everything is given, it makes up the pipeline, and each factory is called once. -/
  complete : ∀ parts, Supplied history config config.wants parts →
    (∃ p : Pipeline ρ, made.result = .ok p ∧ p.parts = parts) ∧
      factoriesIn made.effects = config.wants.map Config.Want.key
  /-- The first component that is not registered is named, and only what comes before it made. -/
  unknown : ∀ before w after parts, config.wants = before ++ w :: after →
    Supplied history config before parts → (ofHistory history).has w.role w.type = false →
      made.result = .error (.error (.unknownComponent w.role w.type)) ∧
        factoriesIn made.effects = before.map Config.Want.key
  /-- The first factory that fails decides, and none is called after it. -/
  failing : ∀ before w after parts e, config.wants = before ++ w :: after →
    Supplied history config before parts →
    Registration.offered history config w = some (.error e) →
      made.result = .error (.error e) ∧
        factoriesIn made.effects = (before ++ [w]).map Config.Want.key
  decided : (∃ parts, Supplied history config config.wants parts) ∨
    ∃ before w after parts, config.wants = before ++ w :: after ∧
      Supplied history config before parts ∧
        ((ofHistory history).has w.role w.type = false ∨
          ∃ e, Registration.offered history config w = some (.error e))

end Registry

end Intake
