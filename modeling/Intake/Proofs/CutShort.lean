import Intake.Proofs.Agreement
import Intake.Proofs.BulkSinks
import Intake.Proofs.Moments

/-!
A run that its source cuts short. Up to the pull at which the source fails or panics, everything is
as if it had nothing left there; only the bulk sink is not called, and the run has failed.
-/
namespace Intake

variable {ρ : Type}

def Stop.error? (source : String) : Stop → Option WorkflowError
  | .exhausted => none
  | .failed e => some (.sourceFailed source e)
  | .panicked p => some (.panicked p.message)

theorem Stop.error_of_abnormal (source : String) {stop : Stop} (abnormal : stop ≠ .exhausted) :
    ∃ e, stop.error? source = some e := by
  cases stop with
  | exhausted => exact absurd rfl abnormal
  | failed e => exact ⟨_, rfl⟩
  | panicked p => exact ⟨_, rfl⟩

theorem runEnd_error {source : String} {stop : Stop} {e : WorkflowError}
    (error : stop.error? source = some e) (bulk : Option (String × Reply)) :
    runEnd source stop bulk = .error e := by
  cases stop <;> cases error <;> rfl

namespace Source

/-- The source gives the items of another one, in the same way, and stops with an error where the
other has nothing left. -/
structure CutShort (cut whole : Source ρ) (k : Nat) (stop : Stop) : Prop where
  name : cut.name = whole.name
  items : ∀ n, n < k → cut.pull n = whole.pull n
  aside : (cut.pull k).actions = (whole.pull k).actions
  abnormal : stop ≠ .exhausted
  stops : cut.StopsAfter k stop
  ends : whole.StopsAfter k .exhausted

theorem CutShort.drain [Record ρ] {cut whole : Source ρ} {k : Nat} {stop : Stop}
    (short : cut.CutShort whole k stop) (seconds : Float) (g : Progress ρ) :
    let d := whole.drain seconds g
    d.stop = .exhausted ∧ cut.drain seconds g = ⟨d.progress, stop, d.effects⟩ := by
  intro d
  obtain ⟨m, reached, ended⟩ := reaches_end short.ends seconds g
  obtain ⟨m', reached', stopped⟩ := reaches_end short.stops seconds g
  have same : m' = m := reached'.unique (reached.agree short.name short.items)
  have notes : (cut.pull k).notes = (whole.pull k).notes := by
    simp only [Pull.notes, short.stops.2, short.ends.2, short.aside]
  have effects : (cut.pull k).effects cut.name = (whole.pull k).effects whole.name := by
    simp only [Pull.effects, Pull.call, short.stops.2, short.ends.2, short.aside, short.name]
    rfl
  rw [show d = _ from ended]
  exact ⟨rfl, by rw [stopped, same, notes, effects]⟩

def endedAfter (s : Source ρ) (k : Nat) : Source ρ :=
  { s with pulls := s.pulls.take k ++ [⟨(s.pull k).actions, .error .exhausted⟩] }

theorem StopsAfter.length_le {s : Source ρ} {k : Nat} {stop : Stop}
    (stops : s.StopsAfter k stop) : k ≤ s.pulls.length := by
  apply Nat.le_of_not_lt
  intro less
  obtain ⟨item, drawn⟩ := stops.1 s.pulls.length less
  rw [s.pull_rest _ List.drop_length] at drawn
  cases drawn

/-- Every source that does not end by itself is cut short of one that does. -/
theorem StopsAfter.cutShort {s : Source ρ} {k : Nat} {stop : Stop}
    (stops : s.StopsAfter k stop) (abnormal : stop ≠ .exhausted) :
    s.CutShort (s.endedAfter k) k stop := by
  have length : (s.pulls.take k).length = k := List.length_take_of_le stops.length_le
  have items : ∀ n, n < k → s.pull n = (s.endedAfter k).pull n := by
    intro n less
    rw [endedAfter, pull, pull, List.getElem?_append_left (by omega), List.getElem?_take_of_lt less]
  have last : (s.endedAfter k).pull k = ⟨(s.pull k).actions, .error .exhausted⟩ := by
    rw [endedAfter, pull, List.getElem?_append_right (by omega), length, Nat.sub_self]
    rfl
  exact
    { name := rfl
      items := items
      aside := by rw [last]
      abnormal := abnormal
      stops := stops
      ends := ⟨fun n less => items n less ▸ stops.1 n less, by rw [last]⟩ }

theorem ofItems_pull (name : String) (items : List (Item ρ)) (onClose : Reply) (rest : Stop) :
    let s : Source ρ := { ofItems name items onClose with rest := rest }
    (∀ n (less : n < items.length), s.pull n = ⟨[], .ok items[n]⟩) ∧
      s.pull items.length = ⟨[], .error rest⟩ := by
  constructor
  · intro n less
    simp [ofItems, pull, less]
  · simp [ofItems, pull]

theorem failAfter_cutShort (name : String) (items : List (Item ρ)) (onClose : Reply) (count : Nat)
    (e : StepError) (enough : count ≤ items.length) :
    ((ofItems name items onClose).failAfter count e).CutShort
      (ofItems name (items.take count) onClose) count (.failed e) := by
  have length : (items.take count).length = count := List.length_take_of_le enough
  have failing : (ofItems name items onClose).failAfter count e =
      { ofItems name (items.take count) onClose with rest := .failed e } := by
    simp [failAfter, ofItems, enough]
  obtain ⟨given, last⟩ := ofItems_pull name (items.take count) onClose (.failed e)
  obtain ⟨given', last'⟩ := ofItems_pull name (items.take count) onClose .exhausted
  simp only [length] at given last given' last'
  rw [failing]
  exact
    { name := rfl
      items := fun n less => (given n less).trans (given' n less).symm
      aside := by rw [last]; exact (congrArg Pull.actions last').symm
      abnormal := Stop.noConfusion
      stops := ⟨fun n less => ⟨_, by rw [given n less]⟩, by rw [last]⟩
      ends := ⟨fun n less => ⟨_, congrArg Pull.drawn (given' n less)⟩,
        congrArg Pull.drawn last'⟩ }

end Source

namespace Workflow

section Cutting

variable [Record ρ] {whole cut : Workflow ρ} {k : Nat} {stop : Stop}

theorem ran_cutShort (short : cut.source.CutShort whole.source k stop)
    (progress : cut.progress = whole.progress) (spawned : cut.timer.spawnFault = none)
    (now : Instant) :
    (cut.ran now).progress = (whole.source.drain now.toSeconds whole.progress).progress := by
  obtain ⟨_, drained⟩ := short.drain now.toSeconds whole.progress
  rw [ran_spawned now spawned, progress]
  rcases run_cases cut.source cut.runId.text now.toSeconds whole.progress with
    ⟨_, _, ended⟩ | ⟨nothingLeft, _⟩
  · rw [ended, drained]
  · rw [drained] at nothingLeft
    exact absurd nothingLeft short.abnormal

theorem execute_cutShort_calls (untouched : whole.Untouched) (untouched' : cut.Untouched)
    (spawned : whole.timer.spawnFault = none) (spawned' : cut.timer.spawnFault = none)
    (short : cut.source.CutShort whole.source k stop) (progress : cut.progress = whole.progress)
    (now : Instant) :
    callsIn (whole.execute now).effects = callsIn (cut.execute now).effects ++
        bulkCalls (fixtures whole.progress.stations) .exhausted ∧
      pullsIn (cut.execute now).effects = k + 1 ∧
      ∀ e ∈ (cut.execute now).effects, e.isBulkRun = false := by
  obtain ⟨exhausted, drained⟩ := short.drain now.toSeconds whole.progress
  have calls := execute_calls untouched now spawned
  have calls' := execute_calls untouched' now spawned'
  simp only [progress, drained, bulkCalls_abnormal _ short.abnormal, List.append_nil] at calls'
  refine ⟨?_, ?_, ?_⟩
  · rw [calls, calls', exhausted]
  · obtain ⟨rfl, _⟩ := short.stops.unique (source_stopsAfter cut.source now.toSeconds cut.progress)
    rw [execute_pulls now untouched', spawned']
    rfl
  · intro e member
    cases bulk : e.isBulkRun with
    | false => rfl
    | true =>
      have call := bulkRun_mem_callsIn member bulk
      rw [calls'] at call
      exact bulk.symm.trans (drain_calls _ _ _ e call)

theorem execute_source_error (untouched : cut.Untouched)
    (spawned : cut.timer.spawnFault = none) (now : Instant)
    (stops : cut.source.StopsAfter k stop) {e : WorkflowError}
    (error : stop.error? cut.source.name = some e) :
    let t := cut.execute now
    t.workflow.state = .failed ∧
      (∃ fields, .logged ⟨.error, "Workflow failed: " ++ e.message, fields⟩ ∈ t.effects) ∧
      ((∃ p, t.workflow.Lost now p ∧ t.result = .error (.panic p)) ∨
        t.result = .error (.error e)) := by
  intro t
  have stopped := (stops.unique (source_stopsAfter cut.source now.toSeconds cut.progress)).2
  have result : (cut.ran now).result = .error e := by
    rw [ran_spawned now spawned, run_result, ← stopped]
    exact runEnd_error error _
  have failed : (cut.settled now).state = .failed := by rw [settled_state now untouched, result]
  have logged : ∃ fields, .logged ⟨.error, "Workflow failed: " ++ e.message, fields⟩ ∈
      cut.settling now := by
    refine ⟨[cut.runField, ("kind", .text cut.kind.text)], ?_⟩
    rw [settling_eq now untouched, result]
    simp [failureEntries]
  refine ⟨(execute_state now untouched).trans failed, ?_, ?_⟩
  · obtain ⟨fields, member⟩ := logged
    refine ⟨fields, ?_⟩
    rcases execute_cases now untouched with ⟨_, returned⟩ | ⟨_, _, _, left⟩
    · simp [t, returned, member]
    · simp [t, left, member]
  · refine (execute_answer now untouched).imp_right fun answer => ?_
    simp only [t, answer, result]
    rfl

end Cutting

/-- The tolerance has no say, and the steps may do what they like. -/
theorem execute_cutShort [Record ρ] {host : Host} {plan : Plan}
    {builder other : PipelineBuilder ρ} {whole cut : Workflow ρ} {k : Nat} {stop : Stop}
    (built : (build host plan builder).result = .ok whole)
    (built' : (build host plan other).result = .ok cut) (spawned : host.spawnFault = none)
    (short : ∀ p q, plan.Assembles builder p → plan.Assembles other q →
      q.steps = p.steps ∧ q.source.CutShort p.source k stop) (now : Instant) :
    let t := whole.execute now
    let t' := cut.execute now
    ∃ p, plan.Assembles builder p ∧
      t'.workflow.progress.source = t.workflow.progress.source ∧
      (∀ (i : Nat) (role : RecordRole) (step : RecordStep ρ),
        p.steps[i]? = some (.record role step) →
          ∃ s, t'.workflow.progress.stations[i]? = some s ∧
            t.workflow.progress.stations[i]? = some s) ∧
      (∀ (i : Nat) (sink : BulkSink), p.steps[i]? = some (.bulk sink) →
        t'.workflow.progress.stations[i]? = some (.start host.now (i + 1) (.bulk sink))) ∧
      (callsIn t.effects =
          callsIn t'.effects ++ bulkCalls (p.steps.mapIdx fun i s => (i + 1, s)) .exhausted ∧
        pullsIn t'.effects = k + 1 ∧ ∀ e ∈ t'.effects, e.isBulkRun = false) ∧
      t'.workflow.state = .failed ∧
      ∃ e, stop.error? p.source.name = some e ∧
        (∃ fields, .logged ⟨.error, "Workflow failed: " ++ e.message, fields⟩ ∈ t'.effects) ∧
        ((∃ p, t'.workflow.Lost now p ∧ t'.result = .error (.panic p)) ∨
          t'.result = .error (.error e)) := by
  intro t t'
  obtain ⟨p, assembles, source, start⟩ := built_pipeline built
  obtain ⟨q, assembles', source', start'⟩ := built_pipeline built'
  obtain ⟨steps, shorter⟩ := short p q assembles assembles'
  have untouched := built_untouched built
  have untouched' := built_untouched built'
  have spawns : whole.timer.spawnFault = none := (built_spawnFault built).trans spawned
  have spawns' : cut.timer.spawnFault = none := (built_spawnFault built').trans spawned
  -- both runs start from the same stations and draw the same items
  have same : cut.progress = whole.progress := by rw [start, start', steps, shorter.name]
  rw [← source, ← source'] at shorter
  have progress : t.workflow.progress = (whole.ran now).progress := (execute_frame now untouched).1
  have progress' : t'.workflow.progress = (cut.ran now).progress :=
    (execute_frame now untouched').1
  rw [ran_spawned now spawns] at progress
  rw [ran_cutShort shorter same spawns' now] at progress'
  have started : ∀ {i : Nat} {step : Step ρ}, p.steps[i]? = some step →
      whole.progress.stations[i]? = some (.start host.now (i + 1) step) := by
    intro i step at_i
    rw [start]
    exact startAll_getElem? host.now _ at_i
  refine ⟨p, assembles, ?_, ?_, ?_, ?_, ?_⟩
  · rw [progress, progress', run_source]
  · intro i role step at_i
    obtain ⟨s, found, record⟩ :=
      drain_station whole.source now.toSeconds whole.progress (started at_i)
    rw [progress, progress']
    exact ⟨s, found, run_record_station _ _ _ _ i s role step found record⟩
  · intro i sink at_i
    rw [progress', Source.drain, drain_stations]
    exact sweep_bulk _ _ _ i _ (started at_i) rfl
  · have calls := execute_cutShort_calls untouched untouched' spawns spawns' shorter same now
    rw [start, startAll_fixtures] at calls
    exact calls
  · have name : cut.source.name = p.source.name := by rw [shorter.name, source]
    obtain ⟨e, error⟩ := Stop.error_of_abnormal cut.source.name shorter.abnormal
    obtain ⟨failed, logged, result⟩ := execute_source_error untouched' spawns' now shorter.stops error
    exact ⟨failed, e, name ▸ error, logged, result⟩

def failingSource : Source String :=
  (Source.ofItems "crm" [.record "b", .record "c", .record "d"] .done).failAfter 2
    (.ofMessage "lost")

theorem execute_cutShort_failing :
    let t := (deployed ⟨plainSource, crowdedSteps⟩).execute .epoch
    let t' := (deployed ⟨failingSource, crowdedSteps⟩).execute .epoch
    t'.workflow.progress.source = t.workflow.progress.source ∧
      callsIn t.effects = callsIn t'.effects ++ [.bulkRan 1 "index"] ∧
      pullsIn t'.effects = 3 ∧ t'.workflow.state = .failed ∧
      t'.result = .error (.error (.sourceFailed "crm" (.ofMessage "lost"))) := by
  have short : failingSource.CutShort plainSource 2 (.failed (.ofMessage "lost")) :=
    Source.failAfter_cutShort "crm" _ .done 2 _ (by decide)
  obtain ⟨_, ⟨_, _, _, assembled⟩, source, _, _, ⟨calls, pulls, _⟩, failed, e, error, _, result⟩ :=
    execute_cutShort (deployed_built ⟨plainSource, crowdedSteps⟩)
      (deployed_built ⟨failingSource, crowdedSteps⟩) rfl (by
        rintro p q ⟨_, _, _, assembled⟩ ⟨_, _, _, assembled'⟩
        cases assembled
        cases assembled'
        exact ⟨rfl, short⟩) .epoch
  cases assembled
  cases error
  refine ⟨source, calls, pulls, failed, ?_⟩
  rcases result with ⟨p, taking | ⟨r, _, panicked⟩, _⟩ | result
  · cases taking
  · cases panicked
  · exact result

end Workflow

end Intake
