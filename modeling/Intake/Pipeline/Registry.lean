import Intake.Pipeline.Basic

/-!
A registry makes the components that a configuration names. What was registered last under a role
and a type counts.
-/
namespace Intake

abbrev SourceFactory (ρ : Type) := Config → Except WorkflowError (Source ρ)

abbrev StepFactory (α : Type) := Config.Component → Config → Except WorkflowError α

structure Registry (ρ : Type) where
  sources : List (String × SourceFactory ρ)
  recordSteps : List ((RecordRole × String) × StepFactory (RecordStep ρ))
  bulkSinks : List (String × StepFactory BulkSink)

inductive Config.Section where
  | record (role : RecordRole) (component : Config.Component)
  | bulk (component : Config.Component)

def Config.sections (c : Config) : List Config.Section :=
  [c.processor.map (.record .processor), c.stage.map (.record .stage),
    c.sink.map (.record .sink), c.bulkSink.map .bulk].filterMap id

namespace Registry

variable {ρ : Type}

def empty : Registry ρ := ⟨[], [], []⟩

def registerSource (type : String) (f : SourceFactory ρ) (g : Registry ρ) : Registry ρ :=
  { g with sources := (type, f) :: g.sources }

def registerStep (role : RecordRole) (type : String) (f : StepFactory (RecordStep ρ))
    (g : Registry ρ) : Registry ρ :=
  { g with recordSteps := ((role, type), f) :: g.recordSteps }

def registerBulkSink (type : String) (f : StepFactory BulkSink) (g : Registry ρ) : Registry ρ :=
  { g with bulkSinks := (type, f) :: g.bulkSinks }

def has (g : Registry ρ) (role : Role) (type : String) : Bool :=
  match role with
  | .source => (g.sources.lookup type).isSome
  | .processor => (g.recordSteps.lookup (.processor, type)).isSome
  | .stage => (g.recordSteps.lookup (.stage, type)).isSome
  | .sink => (g.recordSteps.lookup (.sink, type)).isSome
  | .bulkSink => (g.bulkSinks.lookup type).isSome

def make {α : Type} (role : Role) (type : String) (factory : Option (Except WorkflowError α))
    (component : α → Component) : Traced α :=
  match factory with
  | none => Traced.fail (.unknownComponent role type)
  | some result => do
    Traced.tell [.factoryCalled role type]
    let made ← Traced.ofExcept result
    Traced.tell [.constructed (component made)]
    return made

def makeSource (g : Registry ρ) (config : Config) : Traced (Source ρ) :=
  let type := config.source.sourceType
  make .source type ((g.sources.lookup type).map fun f => f config) fun s => .source s.name

def makeStep (g : Registry ρ) (config : Config) (place : Nat) :
    Config.Section → Traced (Step ρ)
  | .record role c => do
    let factory := g.recordSteps.lookup (role, c.componentType)
    let made ← make role.toRole c.componentType (factory.map fun f => f c config)
      fun s => .step place role.toRole s.name
    return .record role made
  | .bulk c => do
    let factory := g.bulkSinks.lookup c.componentType
    let made ← make .bulkSink c.componentType (factory.map fun f => f c config)
      fun s => .step place .bulkSink s.name
    return .bulk made

def makeSteps (g : Registry ρ) (config : Config) (place : Nat) :
    List Config.Section → Traced (List (Step ρ))
  | [] => return []
  | s :: rest => do
    let made ← g.makeStep config place s
    let others ← g.makeSteps config (place + 1) rest
    return made :: others

def builder (g : Registry ρ) : PipelineBuilder ρ := fun config => do
  let source ← g.makeSource config
  let steps ← g.makeSteps config 1 config.sections
  return ⟨source, steps⟩

def distinct (names : List String) : String :=
  Text.bracketed (names.eraseDups.map Text.quoted)

def describe (g : Registry ρ) : String :=
  let steps := g.recordSteps.map fun e => e.1.1.toRole.text ++ ":" ++ e.1.2
  Text.fields "StepRegistry" [("sources", distinct (g.sources.reverse.map (·.1))),
    ("steps", distinct (steps.mergeSort fun a b => a ≤ b)),
    ("bulk_sinks", distinct (g.bulkSinks.reverse.map (·.1)))] false

end Registry

end Intake
