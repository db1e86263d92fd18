import Intake.Pipeline.Registry
import Intake.Proofs.Cleanup
import Intake.Proofs.Staging

/-!
What a failed building leaves behind. The components of a pipeline are made one after another, and
when one of them cannot be made, or the timer refuses its interval afterwards, those that have been
made are given up as they are: building never closes a component.
-/
namespace Intake

variable {ρ : Type}

def Effect.constructed? : Effect → Option Component
  | .constructed c => some c
  | _ => none

/-- The components that have been made, or handed over ready. -/
def constructedIn (trace : List Effect) : List Component := trace.filterMap Effect.constructed?

def madeOf : List (Except WorkflowError Component) → List Component
  | .ok c :: rest => c :: madeOf rest
  | _ => []

def failureOf : List (Except WorkflowError Component) → Option WorkflowError
  | [] => none
  | .error e :: _ => some e
  | .ok _ :: rest => failureOf rest

theorem constructedIn_append (a b : List Effect) :
    constructedIn (a ++ b) = constructedIn a ++ constructedIn b :=
  List.filterMap_append

/-- These components are made in order, up to the first that cannot be, and none is closed. -/
structure Traced.Makes {α : Type} (t : Traced α)
    (attempts : List (Except WorkflowError Component)) : Prop where
  constructed : constructedIn t.effects = madeOf attempts
  unclosed : closesIn t.effects = []
  result : match failureOf attempts with
    | some e => t.result = .error (.error e)
    | none => ∃ a, t.result = .ok a

namespace Traced.Makes

variable {α β : Type} {t : Traced α} {attempts others : List (Except WorkflowError Component)}

theorem pure (a : α) : (Pure.pure a : Traced α).Makes [] := ⟨rfl, rfl, a, rfl⟩

theorem append_failed {e : WorkflowError}
    (others : List (Except WorkflowError Component)) (failed : failureOf attempts = some e) :
    madeOf (attempts ++ others) = madeOf attempts ∧ failureOf (attempts ++ others) = some e := by
  induction attempts with
  | nil => cases failed
  | cons a rest ih =>
    cases a with
    | error e' => exact ⟨rfl, failed⟩
    | ok c => exact ⟨congrArg (c :: ·) (ih failed).1, (ih failed).2⟩

theorem append_made (others : List (Except WorkflowError Component))
    (made : failureOf attempts = none) :
    madeOf (attempts ++ others) = madeOf attempts ++ madeOf others ∧
      failureOf (attempts ++ others) = failureOf others := by
  induction attempts with
  | nil => exact ⟨rfl, rfl⟩
  | cons a rest ih =>
    cases a with
    | error e => cases made
    | ok c => exact ⟨congrArg (c :: ·) (ih made).1, (ih made).2⟩

theorem bind {f : α → Traced β} (first : t.Makes attempts)
    (next : ∀ a, t.result = .ok a → (f a).Makes others) : (t >>= f).Makes (attempts ++ others) := by
  have result := first.result
  cases failed : failureOf attempts with
  | some e =>
    rw [failed] at result
    obtain ⟨made, failure⟩ := append_failed others failed
    -- the second part is not begun, so what it would have made must not count
    rw [Traced.bind_of_error result]
    refine ⟨first.constructed.trans made.symm, first.unclosed, ?_⟩
    rw [failure]
  | none =>
    rw [failed] at result
    obtain ⟨a, ok⟩ := result
    obtain ⟨made, failure⟩ := append_made others failed
    obtain ⟨constructed, unclosed, result'⟩ := next a ok
    rw [Traced.bind_of_ok ok]
    refine ⟨?_, ?_, ?_⟩
    · rw [constructedIn_append, first.constructed, constructed, made]
    · rw [closesIn_append, first.unclosed, unclosed]
      rfl
    · rw [failure]
      exact result'

theorem map {f : α → Traced β} (first : t.Makes attempts)
    (next : ∀ a, t.result = .ok a → (f a).Makes []) : (t >>= f).Makes attempts := by
  have both := first.bind next
  rwa [List.append_nil] at both

end Traced.Makes

namespace Registry

variable (g : Registry ρ) (config : Config)

def attempt {α : Type} (role : Role) (type : String) (factory : Option (Except WorkflowError α))
    (component : α → Component) : Except WorkflowError Component :=
  match factory with
  | none => .error (.unknownComponent role type)
  | some made => made.map component

def attemptStep (place : Nat) : Config.Section → Except WorkflowError Component
  | .record role c =>
    attempt role.toRole c.componentType
      ((g.recordSteps.lookup (role, c.componentType)).map fun f => f c config)
      fun s => .step place role.toRole s.name
  | .bulk c =>
    attempt .bulkSink c.componentType
      ((g.bulkSinks.lookup c.componentType).map fun f => f c config)
      fun s => .step place .bulkSink s.name

def attempts : List (Except WorkflowError Component) :=
  attempt .source config.source.sourceType
      ((g.sources.lookup config.source.sourceType).map fun f => f config)
      (fun s => .source s.name) ::
    config.sections.mapIdx fun i s => g.attemptStep config (i + 1) s

theorem make_makes {α : Type} (role : Role) (type : String)
    (factory : Option (Except WorkflowError α)) (component : α → Component) :
    (make role type factory component).Makes [attempt role type factory component] := by
  cases factory with
  | none => exact ⟨rfl, rfl, rfl⟩
  | some made =>
    cases made with
    | error e => exact ⟨rfl, rfl, rfl⟩
    | ok a => exact ⟨rfl, rfl, a, rfl⟩

theorem makeStep_makes (place : Nat) (s : Config.Section) :
    (g.makeStep config place s).Makes [g.attemptStep config place s] := by
  cases s with
  | record role c => exact (make_makes _ _ _ _).map fun _ _ => .pure _
  | bulk c => exact (make_makes _ _ _ _).map fun _ _ => .pure _

theorem makeSteps_makes (place : Nat) (sections : List Config.Section) :
    (g.makeSteps config place sections).Makes
      (sections.mapIdx fun i s => g.attemptStep config (i + place) s) := by
  induction sections generalizing place with
  | nil => exact .pure _
  | cons s rest ih =>
    have shifted : (fun i => g.attemptStep config (i + 1 + place)) =
        fun i => g.attemptStep config (i + (place + 1)) := by
      funext i
      rw [Nat.add_assoc, Nat.add_comm 1]
    rw [List.mapIdx_cons, Nat.zero_add, shifted]
    exact (g.makeStep_makes config place s).bind fun _ _ =>
      (ih (place + 1)).map fun _ _ => .pure _

theorem builder_makes : (g.builder config).Makes (g.attempts config) :=
  (make_makes _ _ _ _).bind fun _ _ =>
    (g.makeSteps_makes config 1 config.sections).map fun _ _ => .pure _

end Registry

inductive StepsBuilder (ρ : Type) where
  | registry (g : Registry ρ)
  | prebuilt (b : Prebuilt ρ)

namespace StepsBuilder

def builder : StepsBuilder ρ → PipelineBuilder ρ
  | .registry g => g.builder
  | .prebuilt b => b.builder

/-- A pipeline that lies ready has no component that cannot be made. -/
def attempts : StepsBuilder ρ → Config → List (Except WorkflowError Component)
  | .registry g, config => g.attempts config
  | .prebuilt b, _ =>
    match b.pipeline with
    | some p => p.components.map .ok
    | none => [.error (.invalidConfig (.other "pipeline was already built"))]

theorem madeOf_ready (components : List Component) :
    madeOf (components.map .ok) = components ∧ failureOf (components.map .ok) = none := by
  induction components with
  | nil => exact ⟨rfl, rfl⟩
  | cons c rest ih => exact ⟨congrArg (c :: ·) ih.1, ih.2⟩

theorem ready_components (components : List Component) :
    constructedIn (components.map .constructed) = components ∧
      closesIn (components.map .constructed) = [] := by
  induction components with
  | nil => exact ⟨rfl, rfl⟩
  | cons c rest ih => exact ⟨congrArg (c :: ·) ih.1, ih.2⟩

theorem builder_makes (b : StepsBuilder ρ) (config : Config) :
    (b.builder config).Makes (b.attempts config) := by
  cases b with
  | registry g => exact g.builder_makes config
  | prebuilt b =>
    obtain ⟨pipeline, builds⟩ := b
    cases pipeline with
    | none => exact ⟨rfl, rfl, rfl⟩
    | some p =>
      obtain ⟨made, failure⟩ := madeOf_ready p.components
      obtain ⟨constructed, unclosed⟩ := ready_components p.components
      have effects : (builder (.prebuilt ⟨some p, builds⟩) config).effects =
          p.components.map .constructed := List.append_nil _
      refine ⟨?_, ?_, ?_⟩
      · rw [effects, constructed]
        exact made.symm
      · rw [effects, unclosed]
      · rw [attempts, failure]
        exact ⟨p, rfl⟩

end StepsBuilder

namespace Workflow

theorem aside_components (trace : List Effect)
    (aside : ∀ e ∈ trace, e.isLog = true ∨ (∃ kind name, e = .lookedUp kind name) ∨
      ∃ r, e = .reported r) :
    constructedIn trace = [] ∧ closesIn trace = [] := by
  constructor <;>
  · refine List.filterMap_eq_nil_iff.mpr fun e member => ?_
    rcases aside e member with log | ⟨_, _, rfl⟩ | ⟨_, rfl⟩
    · obtain ⟨_, rfl⟩ := Effect.eq_logged log
      rfl
    · rfl
    · rfl

section Failing

variable {host : Host} {plan : Plan} {b : StepsBuilder ρ}

theorem build_components {kind : ServiceKind} {last : List Effect}
    (split : (build host plan b.builder).effects = (plan.resolved kind).effects ++
      .assembling :: ((b.builder (plan.configured kind)).effects ++ last))
    (logs : ∀ f ∈ last, f.isLog = true) :
    constructedIn (build host plan b.builder).effects =
        madeOf (b.attempts (plan.configured kind)) ∧
      closesIn (build host plan b.builder).effects = [] := by
  have makes := b.builder_makes (plan.configured kind)
  obtain ⟨sought, unclosed⟩ := aside_components (plan.resolved kind).effects
    fun f member => ((resolve_frame _ _ kind).2 f member).imp_right fun asked => .inl ⟨_, _, asked⟩
  obtain ⟨logged, quiet⟩ := aside_components last fun f member => .inl (logs f member)
  have assembling : ∀ rest, constructedIn (.assembling :: rest) = constructedIn rest ∧
      closesIn (.assembling :: rest) = closesIn rest := fun _ => ⟨rfl, rfl⟩
  rw [split, constructedIn_append, closesIn_append, (assembling _).1, (assembling _).2,
    constructedIn_append, closesIn_append, sought, unclosed, logged, quiet, makes.constructed,
    makes.unclosed]
  exact ⟨List.append_nil _, rfl⟩

/-- What has been made when building fails stays unclosed: all that comes before the component that
could not be made, or the whole pipeline when it is the timer that refuses. -/
theorem build_abandons {e : WorkflowError}
    (failed : (build host plan b.builder).result = .error (.error e)) :
    let trace := (build host plan b.builder).effects
    closesIn trace = [] ∧
      ((∀ kind, ¬ plan.Connects kind) ∧ constructedIn trace = [] ∨
        ∃ kind, plan.Connects kind ∧
          let attempts := b.attempts (plan.configured kind)
          constructedIn trace = madeOf attempts ∧
            (failureOf attempts = some e ∨
              failureOf attempts = none ∧ plan.AsksForZero ∧
                e = .timer (.zeroInterval (plan.kind.text ++ "-progress")))) := by
  intro trace
  by_cases connected : ∃ kind, plan.Connects kind
  · obtain ⟨kind, connects⟩ := connected
    have result := (b.builder_makes (plan.configured kind)).result
    cases failure : failureOf (b.attempts (plan.configured kind)) with
    | some e' =>
      rw [failure] at result
      have unmade := build_unmade host connects result
      rw [unmade] at failed
      cases failed
      -- the builder has failed, and nothing is done after it
      rw [← List.append_nil (b.builder (plan.configured kind)).effects] at unmade
      obtain ⟨made, unclosed⟩ :=
        build_components (congrArg Traced.effects unmade) (List.forall_mem_nil _)
      exact ⟨unclosed, .inr ⟨kind, connects, made, .inl failure⟩⟩
    | none =>
      rw [failure] at result
      obtain ⟨p, ok⟩ := result
      -- everything has been made; only the timer can still refuse
      by_cases asks : plan.AsksForZero
      · have untimed := build_untimed host connects ok asks
        rw [untimed] at failed
        cases failed
        obtain ⟨made, unclosed⟩ :=
          build_components (congrArg Traced.effects untimed) (bulkSinkWarning_logs _ p)
        exact ⟨unclosed, .inr ⟨kind, connects, made, .inr ⟨failure, asks, rfl⟩⟩⟩
      · obtain ⟨w, _, built | ⟨_, _, _, _, panicked⟩⟩ :=
          build_created host connects ok asks
        · rw [failed] at built
          cases built
        · rw [failed] at panicked
          cases panicked
  · obtain ⟨_, effects, looking, stuck⟩ := build_stuck (ρ := ρ) host (not_exists.mp connected)
    obtain ⟨made, unclosed⟩ := aside_components effects
      fun f member => (looking f member).imp_right .inl
    have same : trace = effects := congrArg Traced.effects (stuck b.builder)
    rw [same]
    exact ⟨unclosed, .inl ⟨not_exists.mp connected, made⟩⟩

end Failing

def readySteps : StepsBuilder String :=
  .prebuilt (Prebuilt.ofPipeline ⟨lossySource, mixedSteps⟩)

theorem readySteps_refused :
    let t := build ⟨.epoch, ⟨0⟩, none⟩ zeroIntervalPlan readySteps.builder
    t.result = .error (.error (.timer (.zeroInterval "ingestion-progress"))) ∧
      constructedIn t.effects =
        [.source "crm", .step 1 .processor "clean", .step 2 .bulkSink "publish",
          .step 3 .sink "load"] ∧
      closesIn t.effects = [] := by
  intro t
  have untimed : t = _ := build_untimed _ (deployed_connects _) rfl ⟨_, rfl, rfl⟩
  obtain ⟨made, unclosed⟩ := build_components (b := readySteps)
    (congrArg Traced.effects untimed) (bulkSinkWarning_logs _ _)
  exact ⟨congrArg Traced.result untimed, made, unclosed⟩

theorem build_abandons_zeroInterval :
    let t := build ⟨.epoch, ⟨0⟩, none⟩ zeroIntervalPlan readySteps.builder
    t.result = .error (.error (.timer (.zeroInterval "ingestion-progress"))) ∧
      constructedIn t.effects = madeOf (readySteps.attempts zeroIntervalPlan.config) ∧
      closesIn t.effects = [] := by
  intro t
  obtain ⟨failed, made, _⟩ := readySteps_refused
  exact ⟨failed, made, (build_abandons failed).1⟩

theorem build_not_closing :
    ¬ ∀ (host : Host) (plan : Plan) (b : StepsBuilder String) (e : WorkflowError),
      (build host plan b.builder).result = .error (.error e) →
        let trace := (build host plan b.builder).effects
        ∀ c ∈ constructedIn trace, ((closesIn trace).map (·.1)).count c = 1 := by
  intro closes
  obtain ⟨failed, made, unclosed⟩ := readySteps_refused
  have once := closes _ _ _ _ failed (.source "crm") (by rw [made]; exact List.mem_cons_self)
  rw [unclosed] at once
  cases once

end Workflow

end Intake
