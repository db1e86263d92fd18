import Intake.Proofs.Exchange
import Intake.Scripted.Step

/-!
Trouble with a record stays with the record. Whether an execution succeeds, and with which error it
fails, is settled by how the source stops and how the first bulk sink ends; what the record steps
do with their records has no say, and whether they fail or panic shows in words only. All of this
is for a timer that gets its thread: without one the pipeline does not run, and that is the error.
-/
namespace Intake

variable {ρ : Type}

/-- The result is the one that the end of the source and the end of the bulk sink call for. -/
structure Decided (source : String) (stop : Stop) (bulk : Option (String × Reply))
    (result : Except Interruption RunState) : Prop where
  ok : (∃ state, result = .ok state) ↔
    stop = .exhausted ∧ (bulk = none ∨ ∃ sink, bulk = some (sink, .done))
  sourceFailed : ∀ name e, result = .error (.error (.sourceFailed name e)) ↔
    name = source ∧ stop = .failed e
  bulkFailed : ∀ name e, result = .error (.error (.bulkSinkFailed name e)) ↔
    stop = .exhausted ∧ bulk = some (name, .failed e)
  panicked : ∀ message, result = .error (.error (.panicked message)) ↔
    ∃ p : Payload, p.message = message ∧
      (stop = .panicked p ∨ stop = .exhausted ∧ ∃ sink, bulk = some (sink, .panicked p))

theorem runEnd_decided (source : String) (stop : Stop) (bulk : Option (String × Reply))
    (state : RunState) :
    Decided source stop bulk (((runEnd source stop bulk).map fun _ => state).mapError .error) := by
  cases stop with
  | failed e => constructor <;> simp [runEnd, Except.map, Except.mapError, eq_comm]
  | panicked p => constructor <;> simp [runEnd, Except.map, Except.mapError]
  | exhausted =>
    cases bulk with
    | none => constructor <;> simp [runEnd, Except.map, Except.mapError]
    | some ended =>
      obtain ⟨sink, reply⟩ := ended
      cases reply <;> constructor <;> simp [runEnd, bulkResult, Except.map, Except.mapError]

namespace Workflow

section Deciding

variable [Record ρ] (now : Instant) {w : Workflow ρ}

theorem execute_pulls (untouched : w.Untouched) :
    pullsIn (w.execute now).effects =
      if w.timer.spawnFault.isNone then w.source.items.length + 1 else 0 := by
  rw [← pullsIn_callsIn, execute_callsIn now untouched, pullsIn_callsIn]
  cases spawns : w.timer.spawnFault with
  | none =>
    rw [ran_spawned now spawns]
    exact run_pulls w.source _ _ w.progress
  | some reason =>
    rw [ran_refused now spawns]
    rfl

theorem execute_decided (untouched : w.Untouched) (spawned : w.timer.spawnFault = none) :
    let t := w.execute now
    let drained := w.source.drain now.toSeconds w.progress
    let bulk := bulkEnd (stagedIn drained.effects) (w.progress.stations.map (·.step))
    (∃ p, t.workflow.Lost now p ∧ t.result = .error (.panic p)) ∨
      Decided w.source.name drained.stop bulk t.result := by
  intro t drained bulk
  have result : (w.ran now).result = runEnd w.source.name drained.stop bulk := by
    rw [ran_spawned now spawned]
    exact run_result _ _ _ _
  refine (execute_answer now untouched).imp_right fun answer => ?_
  simp only [t, answer, result]
  exact runEnd_decided _ _ _ _

end Deciding

/-- Nothing that record steps, other items, the reporter's errors or the closes do occurs in the
conditions; and the errors and panics of record steps can be exchanged for one another. Only a
timer without a thread keeps the source from being asked at all. -/
theorem execute_isolates [Record ρ] {host : Host} {plan : Plan} {builder : PipelineBuilder ρ}
    {w : Workflow ρ} (built : (build host plan builder).result = .ok w) (now : Instant) :
    let t := w.execute now
    ∃ pipeline, plan.Assembles builder pipeline ∧
      (host.spawnFault = none →
        ∃ k stop, pipeline.source.StopsAfter k stop ∧ pullsIn t.effects = k + 1 ∧
          let staged := stagedIn (w.source.drain now.toSeconds w.progress).effects
          (∃ p, t.workflow.Lost now p ∧ t.result = .error (.panic p)) ∨
            Decided pipeline.source.name stop (bulkEnd staged pipeline.steps) t.result) ∧
      (∀ reason, host.spawnFault = some reason →
        w.Threadless now (.spawnFailed (plan.kind.text ++ "-progress") reason) t) ∧
      ∀ (other : PipelineBuilder ρ) (w' : Workflow ρ), (build host plan other).result = .ok w' →
        (∀ q, plan.Assembles other q → pipeline.Akin q) → plan.reporter.Calm →
        t.Akin now.toSeconds (w'.execute now) := by
  intro t
  obtain ⟨config, service, pipeline, timer, prepared, assembled, _, fresh, _⟩ := build_ok built
  have untouched := built_untouched built
  have assembles : plan.Assembles builder pipeline := ⟨config, service, prepared, assembled⟩
  have source : w.source = pipeline.source := by rw [fresh]; rfl
  have steps : w.progress.stations.map (·.step) = pipeline.steps := by
    rw [fresh]
    exact startAll_steps host.now pipeline.steps
  obtain ⟨_, launched⟩ := built_timer built
  rw [← built_spawnFault built]
  refine ⟨pipeline, assembles, ?_, ?_, ?_⟩
  · intro spawned
    rw [← source, ← steps]
    refine ⟨_, _, source_stopsAfter w.source now.toSeconds w.progress, ?_,
      execute_decided now untouched spawned⟩
    rw [execute_pulls now untouched, spawned]
    rfl
  · intro reason refused
    have threadless := execute_threadless now untouched refused
    rwa [show w.timer.name = plan.kind.text ++ "-progress" by rw [launched]] at threadless
  · intro other w' built' akin calm
    refine execute_akin now (built_akin _ built built' assembles akin) untouched ?_
    rw [fresh]
    exact calm

def touchyPipeline (trouble : Scripted.Act String) : Pipeline String where
  source := ⟨"crm", [⟨[], .ok (.record "a")⟩, ⟨[], .ok (.record "b")⟩, ⟨[], .error .exhausted⟩,
    ⟨[], .ok (.record "c")⟩], .exhausted, .done⟩
  steps :=
    [.record .processor ((Scripted.Script.mk [trouble] [] .next).step "clean" .done),
      .bulk (Scripted.bulkSink "publish" [.scanStaged] .done)]

theorem execute_isolates_touchy :
    let t := (deployed (touchyPipeline (.fail (.ofMessage "bad row")))).execute .epoch
    pullsIn t.effects = 3 ∧ (∃ state, t.result = .ok state) ∧
      t.Akin Instant.epoch.toSeconds
        ((deployed (touchyPipeline (.panic (.text "boom")))).execute .epoch) := by
  intro t
  obtain ⟨pipeline, ⟨_, _, _, assembled⟩, spawned, _, exchanged⟩ :=
    execute_isolates (deployed_built (touchyPipeline (.fail (.ofMessage "bad row")))) .epoch
  obtain ⟨k, stop, stops, pulls, ends⟩ := spawned rfl
  cases assembled
  have known : (touchyPipeline (.fail (.ofMessage "bad row"))).source.StopsAfter 2 .exhausted := by
    refine ⟨fun n less => ?_, rfl⟩
    match n, less with
    | 0, _ => exact ⟨_, rfl⟩
    | 1, _ => exact ⟨_, rfl⟩
  obtain ⟨rfl, rfl⟩ := stops.unique known
  refine ⟨pulls, ?_, exchanged _ _ (deployed_built (touchyPipeline (.panic (.text "boom")))) ?_
    deployedPlan_calm.1⟩
  · rcases ends with ⟨p, taking | ⟨r, _, panicked⟩, _⟩ | decided
    · cases taking
    · cases panicked
    · exact decided.ok.mpr ⟨rfl, .inr ⟨_, rfl⟩⟩
  · rintro q ⟨_, _, _, assembled⟩
    cases assembled
    refine ⟨rfl, .cons (.record .processor ⟨rfl, rfl, ?_, ?_⟩) (.cons (.bulk _) .nil)⟩
    · intro earlier r
      cases earlier <;> rfl
    · intro earlier r
      cases earlier with
      | nil => exact .inr trivial
      | cons _ _ => exact .inl rfl

end Workflow

end Intake
