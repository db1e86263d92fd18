import Intake.Proofs.Agreement
import Intake.Proofs.Calls
import Intake.Proofs.Isolation

/-!
A pipeline runs once. Either the first call on a workflow executes it, or it never runs; every
execution after the first call is turned away and leaves the workflow as it was. What is told
outside follows from this: the first state, and the final one if there was a run.
-/
namespace Intake

def Call.refused (e : WorkflowError) : Call → Answer
  | .execute _ => some (.error (.error e))
  | .stop => none

/-- The moment of the execution with which the calls begin, if they begin with one. -/
def runOf : List Call → Option Instant
  | .execute now :: _ => some now
  | _ => none

theorem runOf_append {before after : List Call} (asked : before ≠ []) :
    runOf (before ++ after) = runOf before := by
  cases before with
  | nil => exact absurd rfl asked
  | cons c rest => cases c <;> rfl

namespace Workflow

variable {ρ : Type}

def refusal (w : Workflow ρ) : Option WorkflowError :=
  if w.executed then some (.alreadyExecuted w.runId.text)
  else if w.stopped then some (.stopped w.runId.text)
  else none

theorem stop_refusal {w : Workflow ρ} {e : WorkflowError} (refused : w.refusal = some e) :
    w.stop.workflow.refusal = some e := by
  cases stopped : w.stopped with
  | true =>
    have same : w.stop.workflow = w := by simp [stop, stopped]
    rw [same, refused]
  | false =>
    -- only an executed workflow can turn executions away before it is stopped
    have executed : w.executed = true := by
      by_contra other
      simp [refusal, other, stopped] at refused
    rw [stop_unstopped w stopped]
    simp only [refusal, executed, if_true] at refused ⊢
    exact refused

theorem stop_quiet (w : Workflow ρ) : ∀ e ∈ w.stop.effects, e.isWork = false := by
  intro e member
  rcases stop_does w e member with ⟨_, rfl⟩ | rfl | ⟨_, _, rfl⟩ <;> rfl

section Calling

variable [Record ρ] {w : Workflow ρ} {e : WorkflowError}

theorem execute_refused (refused : w.refusal = some e) (now : Instant) :
    w.execute now = ⟨w, .error (.error e), []⟩ := by
  unfold refusal at refused
  by_cases executed : w.executed = true
  · rw [if_pos executed, Option.some.injEq] at refused
    rw [execute, if_pos executed, refused]
  · rw [if_neg executed] at refused
    by_cases stopped : w.stopped = true
    · rw [if_pos stopped, Option.some.injEq] at refused
      rw [execute, if_neg executed, if_pos stopped, refused]
    · rw [if_neg stopped] at refused
      cases refused

/-- The workflow does no more work, turns executions away, and shows what it showed before. -/
structure Rests (w : Workflow ρ) (e : WorkflowError) (after : Workflow ρ)
    (effects : List Effect) : Prop where
  refusal : after.refusal = some e
  state : after.state = w.state
  summary : after.summary = w.summary
  idle : ∀ f ∈ effects, f.isWork = false

theorem perform_rests (refused : w.refusal = some e) (c : Call) :
    (w.perform c).result = c.refused e ∧
      w.Rests e (w.perform c).workflow (w.perform c).effects := by
  cases c with
  | execute now =>
    have returned := execute_refused refused now
    simp only [perform, returned]
    exact ⟨rfl, refused, rfl, rfl, List.forall_mem_nil _⟩
  | stop =>
    obtain ⟨state, summary, _⟩ := stop_views .epoch w
    exact ⟨rfl, stop_refusal refused, state, summary, stop_quiet w⟩

theorem performAll_rests (refused : w.refusal = some e) (calls : List Call) :
    (w.performAll calls).result = calls.map (Call.refused e) ∧
      w.Rests e (w.performAll calls).workflow (w.performAll calls).effects := by
  induction calls generalizing w with
  | nil => exact ⟨rfl, refused, rfl, rfl, List.forall_mem_nil _⟩
  | cons c rest ih =>
    obtain ⟨answer, first⟩ := perform_rests refused c
    obtain ⟨answers, others⟩ := ih first.refusal
    refine ⟨?_, others.refusal, others.state.trans first.state,
      others.summary.trans first.summary, ?_⟩
    · simp only [performAll, List.map_cons, answer, answers]
    · intro f member
      rcases List.mem_append.mp member with early | late
      · exact first.idle f early
      · exact others.idle f late

end Calling

def laterError (w : Workflow ρ) (calls : List Call) : WorkflowError :=
  match runOf calls with
  | some _ => .alreadyExecuted w.runId.text
  | none => .stopped w.runId.text

section Living

variable [Record ρ] {w : Workflow ρ} (untouched : w.Untouched)

include untouched

theorem execute_spends (now : Instant) :
    (w.execute now).workflow.refusal = some (.alreadyExecuted w.runId.text) := by
  have spent : (w.settled now).refusal = some (.alreadyExecuted w.runId.text) := by
    rw [settled_eq now untouched]
    rfl
  rcases execute_cases now untouched with ⟨_, returned⟩ | ⟨_, _, _, left⟩
  · rw [returned]
    exact stop_refusal spent
  · rw [left]
    exact spent

theorem perform_spends (c : Call) (rest : List Call) :
    (w.perform c).workflow.refusal = some (w.laterError (c :: rest)) := by
  cases c with
  | execute now => exact execute_spends untouched now
  | stop =>
    simp only [perform, stop_unstopped w untouched.stopped, refusal, untouched.executed]
    rfl

theorem performAll_spent (c : Call) (rest : List Call) :
    (w.performAll (c :: rest)).result =
        (w.perform c).result :: rest.map (Call.refused (w.laterError (c :: rest))) ∧
      (w.perform c).workflow.Rests (w.laterError (c :: rest))
        (w.performAll (c :: rest)).workflow ((w.perform c).workflow.performAll rest).effects := by
  obtain ⟨answers, rests⟩ := performAll_rests (perform_spends untouched c rest) rest
  refine ⟨?_, rests.refusal, rests.state, rests.summary, rests.idle⟩
  simp only [performAll, answers]

theorem performAll_work (calls : List Call) :
    (w.performAll calls).effects.filter Effect.isWork =
      match runOf calls with
      | some now => (w.execute now).effects.filter Effect.isWork
      | none => [] := by
  cases calls with
  | nil => rfl
  | cons c rest =>
    have rests := (performAll_spent untouched c rest).2
    have later : ((w.perform c).workflow.performAll rest).effects.filter Effect.isWork = [] :=
      List.filter_eq_nil_iff.mpr fun e member => by simp [rests.idle e member]
    rw [performAll, List.filter_append, later, List.append_nil]
    cases c with
    | execute now => rfl
    | stop =>
      exact List.filter_eq_nil_iff.mpr fun e member => by simp [stop_quiet w e member]

theorem performAll_view {β : Type} (view : Effect → Option β)
    (working : ∀ e, e.isWork = false → view e = none) (calls : List Call) :
    (w.performAll calls).effects.filterMap view =
      match runOf calls with
      | some now => (w.execute now).effects.filterMap view
      | none => [] := by
  have through : ∀ trace : List Effect,
      (trace.filter Effect.isWork).filterMap view = trace.filterMap view := by
    intro trace
    rw [List.filterMap_filter]
    refine List.filterMap_congr fun e _ => ?_
    cases works : e.isWork with
    | true => rfl
    | false => exact (working e works).symm
  rw [← through, performAll_work untouched calls]
  cases runOf calls with
  | none => rfl
  | some now => exact through _

theorem performAll_pulls (calls : List Call) :
    pullsIn (w.performAll calls).effects =
      if (runOf calls).isSome && w.timer.spawnFault.isNone then w.source.items.length + 1
      else 0 := by
  have counted : ∀ trace : List Effect,
      pullsIn trace = (trace.filterMap fun e => if e.isPull then some () else none).length := by
    intro trace
    induction trace with
    | nil => rfl
    | cons e rest ih => cases pull : e.isPull <;> simp [pullsIn, pull] at ih ⊢ <;> omega
  rw [counted, performAll_view untouched]
  · cases runOf calls with
    | none => rfl
    | some now =>
      simp only [Option.isSome_some, Bool.true_and]
      exact (counted _).symm.trans (execute_pulls now untouched)
  · intro e idle
    cases e <;> first | rfl | cases idle

theorem performAll_state (running : w.state = .running) (calls : List Call) :
    (w.performAll calls).workflow.state =
      match runOf calls with
      | some now => (w.execute now).workflow.state
      | none => .running := by
  cases calls with
  | nil => exact running
  | cons c rest =>
    rw [(performAll_spent untouched c rest).2.state]
    cases c with
    | execute now => rfl
    | stop => exact (stop_views .epoch w).1.trans running

theorem execute_terminal (now : Instant) : (w.execute now).workflow.state.isTerminal = true := by
  rw [(execute_views now untouched).1.1]
  exact settled_terminal now untouched

end Living

structure LivesOnce [Record ρ] (w : Workflow ρ) (calls : List Call) : Prop where
  work : (w.performAll calls).effects.filter Effect.isWork =
    match runOf calls with
    | some now => (w.execute now).effects.filter Effect.isWork
    | none => []
  pulls : pullsIn (w.performAll calls).effects =
    if (runOf calls).isSome && w.timer.spawnFault.isNone then w.source.items.length + 1 else 0
  answers : ∀ c rest, calls = c :: rest →
    (w.performAll calls).result =
      (w.perform c).result :: rest.map (Call.refused (w.laterError calls))
  rejected : ∀ before now after, calls = before ++ .execute now :: after → before ≠ [] →
    let v := (w.performAll before).workflow
    v.execute now = ⟨v, .error (.error (w.laterError calls)), []⟩
  running : w.state = .running
  state : (w.performAll calls).workflow.state =
    match runOf calls with
    | some now => (w.execute now).workflow.state
    | none => .running
  terminal : ∀ now, (w.execute now).workflow.state.isTerminal = true
  steady : ∀ before after, calls = before ++ after → before ≠ [] →
    (w.performAll before).workflow.state = (w.performAll calls).workflow.state

theorem untouched_lives_once [Record ρ] {w : Workflow ρ} (untouched : w.Untouched)
    (running : w.state = .running) (calls : List Call) : w.LivesOnce calls where
  work := performAll_work untouched calls
  pulls := performAll_pulls untouched calls
  answers := by
    rintro c rest rfl
    exact (performAll_spent untouched c rest).1
  rejected := by
    rintro before now after rfl asked
    obtain ⟨c, rest, rfl⟩ := List.exists_cons_of_ne_nil asked
    have refused := (performAll_spent untouched c rest).2.refusal
    have same : w.laterError (c :: rest ++ .execute now :: after) = w.laterError (c :: rest) := by
      rw [laterError, runOf_append asked, laterError]
    rw [same]
    exact execute_refused refused now
  running := running
  state := performAll_state untouched running calls
  terminal := fun now => execute_terminal untouched now
  steady := by
    rintro before after rfl asked
    rw [performAll_state untouched running, performAll_state untouched running, runOf_append asked]

theorem report?_states (now : Instant) (w : Workflow ρ) :
    (w.report? now).toList.map (·.state) = w.config.pipelineFqn.toList.map fun _ => w.state := by
  rw [report?]
  cases w.config.pipelineFqn <;> rfl

theorem execute_reported [Record ρ] {w : Workflow ρ} (untouched : w.Untouched)
    (calm : w.events.Calm) (now : Instant) :
    (reportsIn (w.execute now).effects).map (·.state) =
      w.config.pipelineFqn.toList.map fun _ => (w.execute now).workflow.state := by
  obtain ⟨⟨state, _⟩, _, reports | ⟨_, p, taking, _⟩⟩ := execute_views now untouched
  · have config : (w.settled now).config = w.config := by rw [settled_eq now untouched]
    rw [reports, report?_states, config, state]
  · have events : (w.settled now).events = w.events := by rw [settled_eq now untouched]
    rw [events, calm] at taking
    cases taking

/-- Whatever is asked of a built workflow, its pipeline runs in the first call or never. Reports and
events that the builder of the steps has sent by itself are none of the workflow's; and an event
sink that panics keeps the last report from being sent. -/
theorem performAll_runs_once [Record ρ] {host : Host} {plan : Plan} {builder : PipelineBuilder ρ}
    {w : Workflow ρ} (built : (build host plan builder).result = .ok w) (calls : List Call) :
    let performed := w.performAll calls
    let trace := (build host plan builder).effects ++ performed.effects
    w.LivesOnce calls ∧
      ∃ config service, plan.prepare.result = .ok (config, service) ∧
        (eventsIn trace).map (·.1) =
          (eventsIn (builder config).effects).map (·.1) ++
            (if (runOf calls).isSome then [summaryEvent] else []) ∧
        (plan.events.Calm →
          (reportsIn trace).map (·.state) =
            (reportsIn (builder config).effects).map (·.state) ++
              match plan.config.pipelineFqn with
              | none => []
              | some _ =>
                if (runOf calls).isSome then [.running, performed.workflow.state]
                else [.running]) := by
  intro performed trace
  have untouched := built_untouched built
  obtain ⟨_, _, pipeline, timer, prepared, _, _, fresh, _⟩ := build_ok built
  have running : w.state = .running := by rw [fresh]; rfl
  have lives := untouched_lives_once untouched running calls
  obtain ⟨config, service, known, reports, events⟩ := build_tells built
  refine ⟨lives, config, service, known, ?_, ?_⟩
  · have emitted : eventsIn performed.effects = _ := performAll_view untouched Effect.emitted?
      (fun e idle => by cases e <;> first | rfl | cases idle) calls
    rw [eventsIn_append, events, List.map_append, emitted]
    -- what is told is told in the first call, if that is an execution
    cases runOf calls with
    | none => rfl
    | some now =>
      have told : (w.execute now).effects.filterMap Effect.emitted? = _ :=
        (execute_views now untouched).2.1
      simp only [told]
      rfl
  · intro calm
    have filled := (Plan.prepare_ok prepared).1
    have fqn : w.config.pipelineFqn = plan.config.pipelineFqn := by
      rw [fresh, filled]
      rfl
    have calmEvents : w.events.Calm := by
      rw [fresh]
      exact calm
    have reported : reportsIn performed.effects = _ := performAll_view untouched Effect.report?
      (fun e idle => by cases e <;> first | rfl | cases idle) calls
    rw [reportsIn_append, reports, List.append_assoc, List.map_append, List.map_append,
      report?_states, reported, fqn, running]
    congr 1
    have state : performed.workflow.state = _ := lives.state
    rw [state]
    cases runOf calls with
    | none => cases plan.config.pipelineFqn <;> rfl
    | some now =>
      have told : ((w.execute now).effects.filterMap Effect.report?).map (·.state) = _ :=
        execute_reported untouched calmEvents now
      simp only [told, fqn]
      cases plan.config.pipelineFqn <;> rfl

theorem performAll_runs_once_broken :
    let calls := [Call.execute .epoch, .stop, .execute .epoch]
    let performed := (deployed brokenPipeline).performAll calls
    let built := build ⟨.epoch, ⟨0⟩, none⟩ deployedPlan (Prebuilt.ofPipeline brokenPipeline).builder
    pullsIn performed.effects = 2 ∧
      performed.result[2]? =
        some (some (.error (.error (.alreadyExecuted (Uuid.text ⟨0⟩))))) ∧
      (reportsIn (built.effects ++ performed.effects)).map (·.state) = [.running, .failed] := by
  intro calls performed built
  obtain ⟨lives, _, _, _, _, reported⟩ :=
    performAll_runs_once (deployed_built brokenPipeline) calls
  have state : performed.workflow.state = .failed := lives.state.trans rfl
  refine ⟨lives.pulls, ?_, ?_⟩
  · rw [lives.answers _ _ rfl]
    rfl
  · have own := reported deployedPlan_calm.2
    rw [own, show ((deployed brokenPipeline).performAll calls).workflow.state = _ from state]
    rfl

end Workflow

end Intake
