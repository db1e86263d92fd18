import Intake.Proofs.Abandonment
import Intake.Proofs.Override
import Intake.Proofs.RunOnce

/-!
What an error says about where it comes from. Building fails because of the configuration, an
execution never does, and among the errors of an execution those of the source and of the bulk sink
stand out. The timer is the exception: when it refuses an empty interval, building fails with an
error that is taken for neither.
-/
namespace Intake

variable {ρ : Type}

namespace WorkflowError

theorem not_structural {e : WorkflowError} (configuration : e.isConfiguration = true) :
    e.isStructural = false := by
  cases e <;> first | rfl | cases configuration

end WorkflowError

theorem Config.validate_configuration {c : Config} {e : WorkflowError}
    (invalid : c.validate = .error e) : e.isConfiguration = true := by
  unfold validate at invalid
  split at invalid
  · cases invalid
  · cases invalid
    rfl

theorem resolve_configuration {catalog : Catalog} {source : Config.Source} {kind : ServiceKind}
    {e : WorkflowError} (failed : (resolve catalog source kind).result = .error e) :
    e.isConfiguration = true := by
  have searched := resolve_searched catalog source kind
  by_cases filled : source.hasConnection = true
  · rw [(searched.provided filled).1] at failed
    cases failed
  rw [Bool.not_eq_true] at filled
  by_cases force : catalog.config.forceEntityOverwriting = true
  · rw [(searched.forced filled force).1] at failed
    cases failed
  rw [Bool.not_eq_true] at force
  rcases (searched.answered filled force).decided with found | missing | ⟨_, broken⟩
  · rw [found] at failed
    cases failed
  · rw [missing] at failed
    cases failed
    rfl
  · rw [broken] at failed
    cases failed
    rfl

theorem failureOf_mem {attempts : List (Except WorkflowError Component)} {e : WorkflowError}
    (failed : failureOf attempts = some e) : .error e ∈ attempts := by
  induction attempts with
  | nil => cases failed
  | cons a rest ih =>
    cases a with
    | error e' =>
      cases failed
      exact List.mem_cons_self
    | ok c => exact List.mem_cons_of_mem _ (ih failed)

namespace Registry

structure Reliable (g : Registry ρ) : Prop where
  sources : ∀ type f, g.sources.lookup type = some f → ∀ config, ∃ s, f config = .ok s
  recordSteps : ∀ key f, g.recordSteps.lookup key = some f → ∀ c config, ∃ s, f c config = .ok s
  bulkSinks : ∀ type f, g.bulkSinks.lookup type = some f → ∀ c config, ∃ s, f c config = .ok s

theorem attempt_unknown {α β : Type} {role : Role} {type : String} {factory : Option β}
    {make : β → Except WorkflowError α} {component : α → Component} {e : WorkflowError}
    (gives : ∀ f, factory = some f → ∃ a, make f = .ok a)
    (failed : attempt role type (factory.map make) component = .error e) :
    e = .unknownComponent role type := by
  cases factory with
  | none =>
    cases failed
    rfl
  | some f =>
    obtain ⟨a, made⟩ := gives f rfl
    rw [Option.map_some, made] at failed
    cases failed

theorem attempts_unknown {g : Registry ρ} (reliable : g.Reliable) {config : Config}
    {e : WorkflowError} (failed : .error e ∈ g.attempts config) :
    ∃ role type, e = .unknownComponent role type := by
  rcases List.mem_cons.mp failed with source | step
  · exact ⟨_, _, attempt_unknown (fun f found => reliable.sources _ f found config) source.symm⟩
  · obtain ⟨i, _, tried⟩ := List.mem_mapIdx.mp step
    generalize config.sections[i] = s at tried
    cases s with
    | record role c =>
      exact ⟨_, _, attempt_unknown (fun f found => reliable.recordSteps _ f found c config) tried⟩
    | bulk c =>
      exact ⟨_, _, attempt_unknown (fun f found => reliable.bulkSinks _ f found c config) tried⟩

end Registry

namespace StepsBuilder

/-- A pipeline that lies ready needs no factory. -/
def Reliable : StepsBuilder ρ → Prop
  | .registry g => g.Reliable
  | .prebuilt _ => True

theorem attempts_configuration {b : StepsBuilder ρ} (reliable : b.Reliable) {config : Config}
    {e : WorkflowError} (failed : failureOf (b.attempts config) = some e) :
    e.isConfiguration = true := by
  cases b with
  | registry g =>
    obtain ⟨_, _, rfl⟩ := Registry.attempts_unknown reliable (failureOf_mem failed)
    rfl
  | prebuilt b =>
    obtain ⟨pipeline, _⟩ := b
    cases pipeline with
    | none =>
      cases failed
      rfl
    | some p =>
      rw [attempts, (madeOf_ready p.components).2] at failed
      cases failed

end StepsBuilder

def Plan.FailsAtZeroInterval (plan : Plan) (b : StepsBuilder ρ) : Prop :=
  plan.AsksForZero ∧
    ∃ kind, plan.Connects kind ∧ failureOf (b.attempts (plan.configured kind)) = none

namespace Workflow

section Building

variable (host : Host) {plan : Plan} {b : StepsBuilder ρ}

theorem build_zeroInterval (fails : plan.FailsAtZeroInterval b) :
    (build host plan b.builder).result =
      .error (.error (.timer (.zeroInterval (plan.kind.text ++ "-progress")))) := by
  obtain ⟨asks, kind, connects, made⟩ := fails
  have result := (b.builder_makes (plan.configured kind)).result
  rw [made] at result
  obtain ⟨p, ok⟩ := result
  rw [build_untimed host connects ok asks]

theorem build_stuck_configuration {builder : PipelineBuilder ρ} {e : WorkflowError}
    (stuck : ∀ kind, ¬ plan.Connects kind)
    (failed : (build host plan builder).result = .error (.error e)) : e.isConfiguration = true := by
  cases valid : plan.config.validate with
  | error e' =>
    rw [build_invalid host valid] at failed
    cases failed
    exact Config.validate_configuration valid
  | ok _ =>
    cases known : ServiceKind.ofSourceType? plan.config.source.sourceType with
    | none =>
      rw [build_unknown host valid known] at failed
      cases failed
      rfl
    | some kind =>
      cases found : (plan.resolved kind).result with
      | ok how => exact absurd ⟨⟨valid, known⟩, how, found⟩ (stuck kind)
      | error e' =>
        rw [build_unconnected host ⟨valid, known⟩ found] at failed
        cases failed
        exact resolve_configuration found

theorem build_configuration (reliable : b.Reliable) {e : WorkflowError}
    (failed : (build host plan b.builder).result = .error (.error e))
    (calm : ¬ plan.FailsAtZeroInterval b) : e.isConfiguration = true := by
  by_cases connected : ∃ kind, plan.Connects kind
  · obtain ⟨kind, connects⟩ := connected
    have result := (b.builder_makes (plan.configured kind)).result
    cases failure : failureOf (b.attempts (plan.configured kind)) with
    | some e' =>
      rw [failure] at result
      rw [build_unmade host connects result] at failed
      cases failed
      exact StepsBuilder.attempts_configuration reliable failure
    | none =>
      rw [failure] at result
      obtain ⟨p, ok⟩ := result
      -- everything is made and the interval is not empty, so building does not fail
      have positive : ¬ plan.AsksForZero := fun asks => calm ⟨asks, kind, connects, failure⟩
      obtain ⟨w, _, built | ⟨_, _, _, _, panicked⟩⟩ := build_created host connects ok positive
      · rw [failed] at built
        cases built
      · rw [failed] at panicked
        cases panicked
  · exact build_stuck_configuration host (not_exists.mp connected) failed

end Building

end Workflow

theorem runEnd_structural {source : String} {stop : Stop} {bulk : Option (String × Reply)}
    {e : WorkflowError} (failed : runEnd source stop bulk = .error e) :
    e.isConfiguration = false ∧
      (e.isStructural = true ↔ (∃ err, stop = .failed err) ∨
        stop = .exhausted ∧ ∃ sink err, bulk = some (sink, .failed err)) := by
  cases stop with
  | failed err =>
    cases failed
    simp [WorkflowError.isConfiguration, WorkflowError.isStructural]
  | panicked p =>
    cases failed
    simp [WorkflowError.isConfiguration, WorkflowError.isStructural]
  | exhausted =>
    cases bulk with
    | none => cases failed
    | some ended =>
      obtain ⟨sink, reply⟩ := ended
      cases reply <;> cases failed <;>
        simp [WorkflowError.isConfiguration, WorkflowError.isStructural]

namespace Workflow

section Executing

variable [Record ρ] {w : Workflow ρ}

/-- The pipeline runs, and its source stops with an error, or comes to its end and then the bulk sink
fails. -/
def BreaksDown (w : Workflow ρ) (now : Instant) : Prop :=
  w.timer.spawnFault = none ∧ ∃ k stop, w.source.StopsAfter k stop ∧
    ((∃ err, stop = .failed err) ∨ stop = .exhausted ∧ ∃ sink err,
      bulkEnd (stagedIn (w.source.drain now.toSeconds w.progress).effects)
        (w.progress.stations.map (·.step)) = some (sink, .failed err))

theorem breaksDown_iff (spawned : w.timer.spawnFault = none) (now : Instant) :
    let drained := w.source.drain now.toSeconds w.progress
    w.BreaksDown now ↔ (∃ err, drained.stop = .failed err) ∨
      drained.stop = .exhausted ∧ ∃ sink err,
        bulkEnd (stagedIn drained.effects) (w.progress.stations.map (·.step)) =
          some (sink, .failed err) := by
  have stops := source_stopsAfter w.source now.toSeconds w.progress
  constructor
  · rintro ⟨_, k, stop, known, broken⟩
    obtain ⟨_, rfl⟩ := known.unique stops
    exact broken
  · exact fun broken => ⟨spawned, _, _, stops, broken⟩

theorem execute_structural (untouched : w.Untouched) {now : Instant} {e : WorkflowError}
    (failed : (w.execute now).result = .error (.error e)) :
    e.isConfiguration = false ∧ (e.isStructural = true ↔ w.BreaksDown now) := by
  rcases execute_answer now untouched with ⟨p, _, panicked⟩ | answer
  · cases panicked.symm.trans failed
  · rw [answer] at failed
    have ended : (w.ran now).result = .error e := by
      cases result : (w.ran now).result with
      | ok _ =>
        rw [result] at failed
        cases failed
      | error e' =>
        rw [result] at failed
        cases failed
        rfl
    cases spawns : w.timer.spawnFault with
    | some reason =>
      -- the timer's error is not structural, and without a thread nothing can break down
      rw [ran_refused now spawns] at ended
      cases ended
      exact ⟨rfl, by simp [WorkflowError.isStructural, BreaksDown, spawns]⟩
    | none =>
      rw [ran_spawned now spawns, run_result] at ended
      obtain ⟨running, structural⟩ := runEnd_structural ended
      exact ⟨running, structural.trans (breaksDown_iff spawns now).symm⟩

omit [Record ρ] in
theorem laterError_plain (w : Workflow ρ) (calls : List Call) :
    (w.laterError calls).isConfiguration = false ∧ (w.laterError calls).isStructural = false := by
  unfold laterError
  split <;> exact ⟨rfl, rfl⟩

theorem performAll_structural (untouched : w.Untouched) {calls : List Call} {i : Nat}
    {e : WorkflowError}
    (answered : (w.performAll calls).result[i]? = some (some (.error (.error e)))) :
    e.isConfiguration = false ∧
      (e.isStructural = true ↔ i = 0 ∧ ∃ now, runOf calls = some now ∧ w.BreaksDown now) := by
  cases calls with
  | nil => cases answered
  | cons c rest =>
    rw [(performAll_spent untouched c rest).1] at answered
    cases i with
    | zero =>
      cases c with
      | stop => cases answered
      | execute now =>
        have failed : (w.execute now).result = .error (.error e) :=
          Option.some.inj (Option.some.inj answered)
        simpa [runOf] using execute_structural untouched failed
    | succ i =>
      -- after the first call every execution is turned away with the same error
      rw [List.getElem?_cons_succ, List.getElem?_map] at answered
      obtain ⟨later, _, refused⟩ := Option.map_eq_some_iff.mp answered
      cases later with
      | stop => cases refused
      | execute now =>
        cases refused
        obtain ⟨running, plain⟩ := laterError_plain w (c :: rest)
        exact ⟨running, by simp [plain]⟩

end Executing

/-- With factories that give what they are asked for, the empty interval is all that keeps an error
of building from being one of configuration. No answer to a call is ever one, and it is structural
if, and only if, it is that of the first call and the source or the bulk sink has failed in it. -/
theorem errors_classified [Record ρ] {b : StepsBuilder ρ} (reliable : b.Reliable) (host : Host)
    (plan : Plan) :
    (∀ e, (build host plan b.builder).result = .error (.error e) →
        e.isStructural = false ∧ (e.isConfiguration = true ↔ ¬ plan.FailsAtZeroInterval b)) ∧
      (plan.FailsAtZeroInterval b → (build host plan b.builder).result =
        .error (.error (.timer (.zeroInterval (plan.kind.text ++ "-progress"))))) ∧
      ∀ (builder : PipelineBuilder ρ) (w : Workflow ρ),
        (build host plan builder).result = .ok w → ∀ (calls : List Call) (i : Nat) e,
          (w.performAll calls).result[i]? = some (some (.error (.error e))) →
            e.isConfiguration = false ∧
              (e.isStructural = true ↔
                i = 0 ∧ ∃ now, runOf calls = some now ∧ w.BreaksDown now) := by
  refine ⟨fun e failed => ?_, build_zeroInterval host,
    fun _ _ built _ _ _ => performAll_structural (built_untouched built)⟩
  by_cases fails : plan.FailsAtZeroInterval b
  · have refused := build_zeroInterval host fails
    rw [failed] at refused
    cases refused
    exact ⟨rfl, by simp [fails, WorkflowError.isConfiguration]⟩
  · have configuration := build_configuration host reliable failed fails
    exact ⟨WorkflowError.not_structural configuration, by simp [configuration, fails]⟩

theorem zeroIntervalPlan_fails : zeroIntervalPlan.FailsAtZeroInterval readySteps := by
  refine ⟨⟨_, rfl, rfl⟩, .database, deployed_connects _, ?_⟩
  exact (StepsBuilder.madeOf_ready _).2

theorem errors_classified_broken :
    let performed := (deployed brokenPipeline).performAll [.execute .epoch, .execute .epoch]
    readySteps.Reliable ∧
      (∃ e, (build ⟨.epoch, ⟨0⟩, none⟩ zeroIntervalPlan readySteps.builder).result = .error (.error e) ∧
        e.isConfiguration = false ∧ e.isStructural = false) ∧
      (∃ e, performed.result[0]? = some (some (.error (.error e))) ∧ e.isStructural = true) ∧
      ∃ e, performed.result[1]? = some (some (.error (.error e))) ∧ e.isStructural = false := by
  intro performed
  have reliable : readySteps.Reliable := trivial
  obtain ⟨kinds, refused, _⟩ := errors_classified reliable ⟨.epoch, ⟨0⟩, none⟩ zeroIntervalPlan
  obtain ⟨_, _, answers⟩ := errors_classified reliable ⟨.epoch, ⟨0⟩, none⟩ deployedPlan
  have answered := answers _ _ (deployed_built brokenPipeline) [.execute .epoch, .execute .epoch]
  refine ⟨reliable, ⟨_, refused zeroIntervalPlan_fails, ?_⟩, ⟨_, rfl, ?_⟩, ⟨_, rfl, ?_⟩⟩
  · obtain ⟨plain, configuration⟩ := kinds _ (refused zeroIntervalPlan_fails)
    exact ⟨Bool.eq_false_iff.mpr fun yes => configuration.mp yes zeroIntervalPlan_fails, plain⟩
  · refine (answered 0 _ rfl).2.mpr ⟨rfl, .epoch, rfl, ?_⟩
    exact (breaksDown_iff rfl .epoch).mpr (.inl ⟨_, rfl⟩)
  · exact Bool.eq_false_iff.mpr fun yes => Nat.one_ne_zero ((answered 1 _ rfl).2.mp yes).1

theorem build_not_always_configuration :
    ¬ ∀ (host : Host) (plan : Plan) (b : StepsBuilder String), b.Reliable →
      ∀ e, (build host plan b.builder).result = .error (.error e) →
        e.isConfiguration = true ∧ e.isStructural = false := by
  intro classified
  have configuration := classified ⟨.epoch, ⟨0⟩, none⟩ zeroIntervalPlan readySteps trivial _
    (build_zeroInterval _ zeroIntervalPlan_fails)
  cases configuration.1

end Workflow

end Intake
