import Intake.Proofs.Arrivals
import Intake.Proofs.Isolation

/-!
Bulk sinks stay out of the stream. The first of them is called once, when the source has nothing
left and every record step has been run on all that comes to it; the others are never called. To
the source and to the record steps it makes no difference where bulk sinks stand, or whether there
are any.
-/
namespace Intake

variable {ρ : Type}

namespace Step

def isBulk : Step ρ → Bool
  | .record _ _ => false
  | .bulk _ => true

theorem isBulk_iff {s : Step ρ} : s.isBulk = true ↔ ∃ sink, s = .bulk sink := by
  cases s <;> simp [isBulk]

end Step

def recordStations (stations : List (Station ρ)) : List (Station ρ) :=
  (stations.map fun s => { s with place := 0 }).filter fun s => !s.step.isBulk

/-- The calls of bulk sinks: of the first one alone, and only if the source had nothing left. -/
def bulkCalls (steps : List (Nat × Step ρ)) : Stop → List Effect
  | .exhausted => (steps.find? fun s => s.2.isBulk).toList.map fun s => .bulkRan s.1 s.2.name
  | .failed _ | .panicked _ => []

section Stations

theorem recordStations_cons (s : Station ρ) (rest : List (Station ρ)) :
    recordStations (s :: rest) =
      if s.step.isBulk then recordStations rest else { s with place := 0 } :: recordStations rest := by
  cases bulk : s.step.isBulk <;> simp [recordStations, bulk]

theorem recordStations_startAll (startedAt : Instant) (steps : List (Step ρ)) :
    recordStations (Station.startAll startedAt steps) =
      (steps.filter fun s => !s.isBulk).map (Station.start startedAt 0) := by
  have unplaced : ((Station.startAll startedAt steps).map fun s => { s with place := 0 }) =
      steps.map (Station.start startedAt 0) := by
    apply List.ext_getElem <;> simp [Station.startAll, Station.start]
  rw [recordStations, unplaced, List.filter_map]
  rfl

variable [Record ρ]

theorem sweep_recordStations (seconds : Float) (stations : List (Station ρ)) (rs : List ρ) :
    recordStations (sweep seconds stations rs) = sweep seconds (recordStations stations) rs := by
  induction stations generalizing rs with
  | nil => rfl
  | cons s rest ih =>
    obtain ⟨place, step, received, status⟩ := s
    cases step with
    | bulk sink =>
      rw [sweep, afterAll_bulk, passedOn_bulk, recordStations_cons, recordStations_cons]
      exact ih rs
    | record role step =>
      rw [sweep, afterAll_record, passedOn_record, recordStations_cons, recordStations_cons]
      simp only [Step.isBulk, Bool.false_eq_true, if_false, sweep, afterAll_record,
        passedOn_record, ih]

theorem sweep_bulk (seconds : Float) (stations : List (Station ρ)) (rs : List ρ) (i : Nat)
    (s : Station ρ) (at_i : stations[i]? = some s) (bulk : s.step.isBulk = true) :
    (sweep seconds stations rs)[i]? = some s := by
  induction stations generalizing rs i with
  | nil => cases at_i
  | cons t rest ih =>
    cases i with
    | succ i => exact ih _ i at_i
    | zero =>
      cases at_i
      obtain ⟨place, step, received, status⟩ := s
      obtain ⟨sink, rfl⟩ := Step.isBulk_iff.mp bulk
      simp [sweep, afterAll_bulk]

end Stations

section Publishing

variable {staged : List String} {stations : List (Station ρ)} {p : Published ρ}

theorem publish_recordStations (published : publish staged stations = some p) :
    recordStations p.stations = recordStations stations := by
  obtain ⟨before, s, sink, after, rfl, bulk, _, rfl⟩ := publish_cases staged stations p published
  simp [recordStations, bulk, Step.isBulk]

theorem publish_later (published : publish staged stations = some p) {i j : Nat}
    {first : Station ρ} (less : j < i) (at_j : stations[j]? = some first)
    (bulk : first.step.isBulk = true) : p.stations[i]? = stations[i]? := by
  obtain ⟨before, s, sink, after, rfl, isBulk, records, rfl⟩ :=
    publish_cases staged stations p published
  have inside : before.length ≤ j := by
    apply Nat.le_of_not_lt
    intro early
    rw [List.getElem?_append_left early] at at_j
    obtain ⟨role, step, record⟩ := records first (List.mem_of_getElem? at_j)
    rw [record] at bulk
    cases bulk
  obtain ⟨n, rfl⟩ := Nat.exists_eq_add_of_lt (Nat.lt_of_le_of_lt inside less)
  rw [List.getElem?_append_right (by omega), List.getElem?_append_right (by omega)]
  have shift : before.length + n + 1 - before.length = n + 1 := by omega
  rw [shift]
  rfl

theorem publish_calls (staged : List String) (stations : List (Station ρ)) :
    ((publish staged stations).elim [] fun p => callsIn p.effects) =
      bulkCalls (fixtures stations) .exhausted := by
  induction stations with
  | nil => rfl
  | cons s rest ih =>
    cases kind : s.step with
    | record role step =>
      have skipped : bulkCalls (fixtures (s :: rest)) .exhausted =
          bulkCalls (fixtures rest) .exhausted := by
        simp [bulkCalls, fixtures, kind, Step.isBulk]
      rw [skipped, ← ih]
      simp only [publish, kind]
      cases publish staged rest <;> rfl
    | bulk sink =>
      have acted := callsIn_none
        (actions_uncalled s.place sink.name (sink.publish staged).actions)
      have called : callsIn (.bulkRan s.place sink.name ::
          (sink.publish staged).actions.map (Action.effect s.place sink.name)) =
          [.bulkRan s.place sink.name] := by
        rw [callsIn, List.filter_cons_of_pos rfl, ← callsIn, acted]
      simpa [publish, kind, bulkCalls, fixtures, Step.isBulk, Step.name] using called

end Publishing

theorem runBulkSink_calls (runId : String) (staged : List String) (g : Progress ρ) :
    callsIn (runBulkSink runId staged g).effects = bulkCalls (fixtures g.stations) .exhausted := by
  rw [← publish_calls staged]
  unfold runBulkSink
  cases publish staged g.stations <;> rfl

theorem bulkCalls_abnormal (steps : List (Nat × Step ρ)) {stop : Stop}
    (abnormal : stop ≠ .exhausted) : bulkCalls steps stop = [] := by
  cases stop with
  | exhausted => exact absurd rfl abnormal
  | failed e => rfl
  | panicked p => rfl

section Runs

variable [Record ρ] (s : Source ρ) (runId : String) (seconds : Float) (g : Progress ρ)

theorem drain_calls : ∀ e ∈ callsIn (s.drain seconds g).effects, e.isBulkRun = false := by
  intro e member
  have known := drain_effects seconds s.name s.rest s.pulls g e (List.mem_filter.mp member).1
  cases e <;> simp_all [Effect.isPull, Effect.isRouting, Effect.isBulkRun]

theorem run_calls :
    callsIn (s.run runId seconds g).effects =
      callsIn (s.drain seconds g).effects ++
        bulkCalls (fixtures g.stations) (s.drain seconds g).stop := by
  rcases run_cases s runId seconds g with ⟨abnormal, _, ended⟩ | ⟨exhausted, went⟩
  · rw [ended, bulkCalls_abnormal _ abnormal, List.append_nil]
  · rw [went, callsIn_append, runBulkSink_calls, drain_fixtures, exhausted]

theorem run_recordStations :
    recordStations (s.run runId seconds g).progress.stations =
      sweep seconds (recordStations g.stations) s.records := by
  have drained : recordStations (s.drain seconds g).progress.stations =
      sweep seconds (recordStations g.stations) s.records := by
    rw [Source.drain, drain_stations, sweep_recordStations]
    rfl
  rcases run_cases s runId seconds g with ⟨_, _, ended⟩ | ⟨_, went⟩
  · rw [ended, drained]
  · rw [went, ← drained]
    unfold runBulkSink
    split
    · rfl
    · rename_i p published
      exact publish_recordStations published

/-- A bulk sink is as it has been, unless it is the first one and the source had nothing left. -/
theorem run_idle {i : Nat} {t : Station ρ} (at_i : g.stations[i]? = some t)
    (bulk : t.step.isBulk = true)
    (idle : (s.drain seconds g).stop = .exhausted →
      ∃ (j : Nat) (first : Station ρ), j < i ∧ g.stations[j]? = some first ∧ first.step.isBulk = true) :
    (s.run runId seconds g).progress.stations[i]? = some t := by
  have kept : ∀ {j : Nat} {u : Station ρ}, g.stations[j]? = some u → u.step.isBulk = true →
      (s.drain seconds g).progress.stations[j]? = some u := by
    intro j u at_j isBulk
    rw [Source.drain, drain_stations]
    exact sweep_bulk seconds g.stations _ j u at_j isBulk
  rcases run_cases s runId seconds g with ⟨_, _, ended⟩ | ⟨exhausted, went⟩
  · rw [ended]
    exact kept at_i bulk
  · obtain ⟨j, first, less, at_j, isBulk⟩ := idle exhausted
    rw [went, runBulkSink]
    split
    · exact kept at_i bulk
    · rename_i p published
      exact (publish_later published less (kept at_j isBulk) isBulk).trans (kept at_i bulk)

omit s runId g in
theorem drain_source (name : String) (rest : Stop) (ps : List (Pull ρ)) {g g' : Progress ρ}
    (same : g.source = g'.source) :
    (drain seconds name rest ps g).progress.source =
      (drain seconds name rest ps g').progress.source := by
  induction ps generalizing g g' with
  | nil => exact same
  | cons p ps ih =>
    cases drawn : p.drawn with
    | error stop => simp only [drain, drawn, same]
    | ok item =>
      simp only [drain, drawn]
      exact ih (by rw [same])

theorem run_source :
    (s.run runId seconds g).progress.source = (s.drain seconds g).progress.source := by
  rcases run_cases s runId seconds g with ⟨_, _, ended⟩ | ⟨_, went⟩
  · rw [ended]
  · rw [went, runBulkSink]
    split <;> rfl

end Runs

namespace Workflow

section Executing

variable [Record ρ] {w : Workflow ρ} (untouched : w.Untouched) (now : Instant)

include untouched

theorem execute_calls (spawned : w.timer.spawnFault = none) :
    let d := w.source.drain now.toSeconds w.progress
    callsIn (w.execute now).effects =
      callsIn d.effects ++ bulkCalls (fixtures w.progress.stations) d.stop := by
  intro d
  rw [execute_callsIn now untouched, ran_spawned now spawned]
  exact run_calls w.source w.runId.text now.toSeconds w.progress

theorem execute_transparent {other : Workflow ρ} (untouched' : other.Untouched)
    (fault : other.timer.spawnFault = w.timer.spawnFault)
    (source : other.source = w.source) (status : other.progress.source = w.progress.source)
    (steps : recordStations other.progress.stations = recordStations w.progress.stations) :
    let g := (w.execute now).workflow.progress
    let g' := (other.execute now).workflow.progress
    g'.source = g.source ∧ recordStations g'.stations = recordStations g.stations := by
  intro g g'
  have progress : g = (w.ran now).progress := (execute_frame now untouched).1
  have progress' : g' = (other.ran now).progress := (execute_frame now untouched').1
  rw [progress, progress']
  cases spawns : w.timer.spawnFault with
  | some reason =>
    rw [ran_refused now spawns, ran_refused now (fault.trans spawns)]
    exact ⟨status, steps⟩
  | none =>
    rw [ran_spawned now spawns, ran_spawned now (fault.trans spawns)]
    constructor
    · rw [run_source, run_source, source]
      exact drain_source _ _ _ _ status
    · rw [run_recordStations, run_recordStations, source, steps]

omit now in
theorem execute_idle (now : Instant) {i : Nat} {t : Station ρ}
    (at_i : w.progress.stations[i]? = some t) (bulk : t.step.isBulk = true)
    (idle : (w.source.drain now.toSeconds w.progress).stop = .exhausted →
      ∃ (j : Nat) (first : Station ρ), j < i ∧ w.progress.stations[j]? = some first ∧
        first.step.isBulk = true) :
    (w.execute now).workflow.progress.stations[i]? = some t := by
  rw [(execute_frame now untouched).1]
  cases spawns : w.timer.spawnFault with
  | some reason =>
    rw [ran_refused now spawns]
    exact at_i
  | none =>
    rw [ran_spawned now spawns]
    exact run_idle w.source w.runId.text now.toSeconds w.progress at_i bulk idle

end Executing

/-- Everything that is called: while the source is drained, the source itself and the record steps,
each of these on all the records that the reference hands to it; then the first bulk sink, if the
source had nothing left. The record steps stay as the stream has left them. -/
structure StreamsFirst [Record ρ] (startedAt now : Instant) (p : Pipeline ρ) (k : Nat) (stop : Stop)
    (drained : Drained ρ) (calls : List Effect) (after : List (Station ρ)) : Prop where
  order : calls =
    callsIn drained.effects ++ bulkCalls (p.steps.mapIdx fun i s => (i + 1, s)) stop
  pulls : pullsIn (callsIn drained.effects) = k + 1
  unpublished : ∀ e ∈ callsIn drained.effects, e.isBulkRun = false
  received : drained.progress.stations.map (fun s => (s.place, s.received)) =
    (breadthFirst startedAt now.toSeconds 1 p.steps p.source.records).map
      fun s => (s.place, s.received)
  runs : ∀ s ∈ breadthFirst startedAt now.toSeconds 1 p.steps p.source.records,
    keysAt s.place (callsIn drained.effects) = s.received.map Record.key
  kept : recordStations after = recordStations drained.progress.stations

theorem execute_streamsFirst [Record ρ] {w : Workflow ρ} (untouched : w.Untouched)
    (spawned : w.timer.spawnFault = none) {p : Pipeline ρ} {startedAt : Instant}
    (source : w.source = p.source)
    (start : w.progress.stations = Station.startAll startedAt p.steps) (now : Instant) :
    let t := w.execute now
    let drained := w.source.drain now.toSeconds w.progress
    StreamsFirst startedAt now p w.source.items.length drained.stop drained (callsIn t.effects)
      t.workflow.progress.stations := by
  intro t drained
  have apart : (w.progress.stations.map (·.place)).Nodup := by
    rw [start]
    exact startAll_places startedAt p.steps
  -- the trace shows of each station what it has received, by the invariant of the loop
  have shown : ∀ s ∈ drained.progress.stations, s.Shown ([] ++ drained.effects) := by
    refine drain_shown now.toSeconds w.source.name w.source.rest w.source.pulls w.progress apart ?_
    rw [start]
    exact startAll_shown startedAt p.steps
  have received : drained.progress.stations.map (fun s => (s.place, s.received)) =
      (breadthFirst startedAt now.toSeconds 1 p.steps p.source.records).map
        fun s => (s.place, s.received) := by
    rw [show drained.progress.stations = sweep now.toSeconds w.progress.stations _ from
      drain_stations _ _ _ _ _, start, ← source]
    exact sweep_received startedAt now.toSeconds 1 p.steps w.source.records
  refine ⟨?_, ?_, drain_calls w.source now.toSeconds w.progress, received, ?_, ?_⟩
  · rw [execute_calls untouched now spawned, start, startAll_fixtures]
  · rw [pullsIn_callsIn]
    exact drain_pulls now.toSeconds w.source.name w.source.rest w.source.pulls w.progress
  · intro s member
    obtain ⟨u, inside, same⟩ := List.mem_map.mp (received ▸ List.mem_map_of_mem member)
    obtain ⟨place, records⟩ := Prod.mk.inj same
    rw [keysAt_callsIn, ← place, ← records]
    exact shown u inside
  · rw [(execute_frame now untouched).1, ran_spawned now spawned, run_recordStations,
      ← sweep_recordStations]
    exact congrArg recordStations (drain_stations _ _ _ _ _).symm

/-- A bulk sink that is not called is as it started: its status has nothing but zeros. -/
theorem execute_bulkSinks [Record ρ] {host : Host} {plan : Plan} {builder : PipelineBuilder ρ}
    {w : Workflow ρ} (built : (build host plan builder).result = .ok w) (now : Instant) :
    let t := w.execute now
    ∃ pipeline, plan.Assembles builder pipeline ∧
      (∃ k stop, pipeline.source.StopsAfter k stop ∧
        (host.spawnFault = none →
          StreamsFirst host.now now pipeline k stop (w.source.drain now.toSeconds w.progress)
            (callsIn t.effects) t.workflow.progress.stations) ∧
        (host.spawnFault ≠ none → callsIn t.effects = []) ∧
        ∀ (i : Nat) (sink : BulkSink), pipeline.steps[i]? = some (.bulk sink) →
          (stop = .exhausted → ∃ (j : Nat) (first : BulkSink), j < i ∧
            pipeline.steps[j]? = some (.bulk first)) →
          t.workflow.progress.stations[i]? = some (.start host.now (i + 1) (.bulk sink))) ∧
      ∀ (other : PipelineBuilder ρ) (w' : Workflow ρ), (build host plan other).result = .ok w' →
        (∀ q, plan.Assembles other q → q.source = pipeline.source ∧
          (q.steps.filter fun s => !s.isBulk) = pipeline.steps.filter fun s => !s.isBulk) →
        let t' := w'.execute now
        t'.workflow.progress.source = t.workflow.progress.source ∧
          recordStations t'.workflow.progress.stations =
            recordStations t.workflow.progress.stations := by
  intro t
  obtain ⟨pipeline, assembles, source, start⟩ := built_pipeline built
  have untouched := built_untouched built
  have fault := built_spawnFault built
  refine ⟨pipeline, assembles, ?_, ?_⟩
  · rw [← fault, ← source]
    refine ⟨_, _, source_stopsAfter w.source now.toSeconds w.progress, ?_, ?_, ?_⟩
    · exact fun spawned => execute_streamsFirst untouched spawned source (by rw [start]) now
    · intro refused
      obtain ⟨reason, refused⟩ := Option.ne_none_iff_exists'.mp refused
      exact (execute_threadless now untouched refused).uncalled
    · intro i sink at_i idle
      have started : ∀ {j : Nat} {step : Step ρ}, pipeline.steps[j]? = some step →
          w.progress.stations[j]? = some (.start host.now (j + 1) step) := by
        intro j step at_j
        rw [start]
        exact startAll_getElem? host.now _ at_j
      refine execute_idle untouched now (started at_i) rfl fun exhausted => ?_
      obtain ⟨j, first, less, at_j⟩ := idle exhausted
      exact ⟨j, _, less, started at_j, rfl⟩
  · intro other w' built' alike t'
    obtain ⟨q, assembles', source', start'⟩ := built_pipeline built'
    obtain ⟨sameSource, sameSteps⟩ := alike q assembles'
    rw [sameSource] at source' start'
    refine execute_transparent untouched now (built_untouched built')
      ((built_spawnFault built').trans fault.symm) (source'.trans source.symm) ?_ ?_
    · rw [start, start']
    · rw [start, start', recordStations_startAll, recordStations_startAll, sameSteps]

def plainSource : Source String := .ofItems "crm" [.record "b", .record "c"] .done

def crowdedSteps : List (Step String) :=
  .bulk (Scripted.bulkSink "index" [.scanStaged] .done) :: mixedSteps

theorem execute_bulkSinks_crowded :
    let t := (deployed ⟨plainSource, crowdedSteps⟩).execute .epoch
    let t' := (deployed ⟨plainSource, crowdedSteps.filter fun s => !s.isBulk⟩).execute .epoch
    (∃ stream, callsIn t.effects = stream ++ [.bulkRan 1 "index"] ∧ pullsIn stream = 3 ∧
        keysAt 2 stream = ["b", "c"] ∧ keysAt 4 stream = ["b", "c!"]) ∧
      t.workflow.progress.stations[2]? =
        some (.start .epoch 3 (.bulk (Scripted.bulkSink "publish" [.scanStaged] .done))) ∧
      recordStations t'.workflow.progress.stations =
        recordStations t.workflow.progress.stations := by
  obtain ⟨pipeline, ⟨_, _, _, assembled⟩, ⟨k, stop, stops, spawned, _, idle⟩, transparent⟩ :=
    execute_bulkSinks (deployed_built ⟨plainSource, crowdedSteps⟩) .epoch
  have streams := spawned rfl
  cases assembled
  have known : plainSource.StopsAfter 2 .exhausted :=
    source_stopsAfter plainSource 0.0 ⟨.start "crm" .source .epoch, []⟩
  obtain ⟨rfl, rfl⟩ := stops.unique known
  refine ⟨⟨_, streams.order, streams.pulls, ?_, ?_⟩,
    idle 2 _ rfl fun _ => ⟨0, _, by omega, rfl⟩, ?_⟩
  · exact streams.runs _ (List.mem_of_getElem? (i := 1) rfl)
  · exact streams.runs _ (List.mem_of_getElem? (i := 3) rfl)
  refine (transparent _ _ (deployed_built _) ?_).2
  rintro q ⟨_, _, _, assembled⟩
  cases assembled
  exact ⟨rfl, rfl⟩

end Workflow

end Intake
