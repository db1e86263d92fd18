import Intake.Proofs.RunEnd
import Mathlib.Algebra.GroupWithZero.Nat
import Mathlib.Data.List.Nodup

/-!
What the counters of a station say: how often its step has been handed a record. Routing keeps
them so, and a routed record is counted once more where it stops, or leaves the last station.
-/
namespace Intake

variable {ρ : Type}

namespace Effect

def isRunAt (place : Nat) : Effect → Bool
  | .ran at' _ _ => at' == place
  | _ => false

def isBulkRunAt (place : Nat) : Effect → Bool
  | .bulkRan at' _ => at' == place
  | _ => false

end Effect

def runsAt (place : Nat) (trace : List Effect) : Nat := trace.countP (Effect.isRunAt place)

def bulkRunsAt (place : Nat) (trace : List Effect) : Nat :=
  trace.countP (Effect.isBulkRunAt place)

def Outcome.isConsumed : Outcome ρ → Bool
  | .consumed => true
  | _ => false

namespace Station

/-- The records that have not gone on from here: consumed, filtered or failed. -/
def stopped (s : Station ρ) : Nat :=
  match s.step with
  | .record _ step =>
    (step.answers s.received).countP (fun a => a.2.outcome.isConsumed) + s.status.filtered +
      s.status.failed
  | .bulk _ => 0

/-- The counters of the station are those of the calls in the trace. -/
structure Tallied (trace : List Effect) (s : Station ρ) : Prop where
  runs : ∀ role step, s.step = .record role step →
    s.status.counts.processed = runsAt s.place trace
  idle : ∀ sink, s.step = .bulk sink → bulkRunsAt s.place trace = 0 → s.status.counts = .zero

end Station

section Traces

variable {trace more : List Effect} {place : Nat}

theorem runsAt_append : runsAt place (trace ++ more) = runsAt place trace + runsAt place more :=
  List.countP_append

theorem bulkRunsAt_append :
    bulkRunsAt place (trace ++ more) = bulkRunsAt place trace + bulkRunsAt place more :=
  List.countP_append

theorem runsAt_uncalled (uncalled : ∀ e ∈ trace, e.isCall = false) : runsAt place trace = 0 := by
  refine List.countP_eq_zero.mpr fun e member here => ?_
  have silent := uncalled e member
  cases e <;> first | cases here | cases silent

theorem Station.Tallied.later {s : Station ρ} (tallied : s.Tallied trace)
    (elsewhere : runsAt s.place more = 0) : s.Tallied (trace ++ more) := by
  refine ⟨?_, ?_⟩
  · intro role step record
    rw [runsAt_append, elsewhere, tallied.runs role step record, Nat.add_zero]
  · intro sink bulk idle
    rw [bulkRunsAt_append] at idle
    exact tallied.idle sink bulk (by omega)

theorem Station.Tallied.earlier {s : Station ρ} (tallied : s.Tallied more)
    (elsewhere : runsAt s.place trace = 0) : s.Tallied (trace ++ more) := by
  refine ⟨?_, ?_⟩
  · intro role step record
    rw [runsAt_append, elsewhere, tallied.runs role step record, Nat.zero_add]
  · intro sink bulk idle
    rw [bulkRunsAt_append] at idle
    exact tallied.idle sink bulk (by omega)

end Traces

theorem zip_responses_concat (s : RecordStep ρ) (earlier rs : List ρ) (r : ρ) :
    (rs ++ [r]).zip (s.responses earlier (rs ++ [r])) =
      rs.zip (s.responses earlier rs) ++ [(r, s.react (earlier ++ rs) r)] := by
  induction rs generalizing earlier with
  | nil => simp [RecordStep.responses]
  | cons r' rs ih => simp [RecordStep.responses, ih]

theorem startAll_places (startedAt : Instant) (steps : List (Step ρ)) :
    ((Station.startAll startedAt steps).map (·.place)).Nodup := by
  have places : (Station.startAll startedAt steps).map (·.place) =
      (List.range steps.length).map (· + 1) := by
    apply List.ext_getElem <;> simp [Station.startAll, Station.start]
  rw [places]
  exact List.nodup_range.map fun _ _ => Nat.succ.inj

section Stations

variable [Record ρ] (seconds : Float)

theorem process_elsewhere (s : Station ρ) (r : ρ) {place : Nat} (apart : place ≠ s.place) :
    runsAt place (s.process seconds r).effects = 0 := by
  unfold Station.process
  split
  · rfl
  · rename_i role step _
    have actions : runsAt place ((step.react s.received r).actions.map
        (Action.effect s.place step.name)) = 0 := runsAt_uncalled (actions_uncalled _ _ _)
    have elsewhere : (s.place == place) = false := by simp [apart.symm]
    simp only [Response.call, List.cons_append, runsAt, List.countP_cons, List.countP_append,
      Effect.isRunAt, elsewhere]
    rw [← runsAt, actions]
    rfl

theorem route_elsewhere (stations : List (Station ρ)) (r : ρ) {place : Nat}
    (apart : place ∉ stations.map (·.place)) :
    runsAt place (route seconds stations r).effects = 0 := by
  induction stations generalizing r with
  | nil => rfl
  | cons s rest ih =>
    rw [List.map_cons, List.mem_cons, not_or] at apart
    have here := process_elsewhere seconds s r apart.1
    cases passed : (s.process seconds r).next with
    | none => simpa only [route, passed] using here
    | some r' => simp only [route, passed, runsAt_append, here, ih r' apart.2]

omit seconds in
theorem pull_unrun (name : String) (p : Pull ρ) (place : Nat) :
    runsAt place (p.effects name) = 0 := by
  obtain ⟨tail, effects, _, uncalled⟩ := pull_first name p
  rw [effects, runsAt, List.countP_cons, ← runsAt, runsAt_uncalled uncalled]
  rfl

theorem append_process_bulk (place : Nat) (sink : BulkSink) (received : List ρ) (status : Status)
    (r : ρ) (trace : List Effect) :
    trace ++ (Station.process seconds ⟨place, .bulk sink, received, status⟩ r).effects = trace :=
  List.append_nil trace

theorem process_effects (place : Nat) (role : RecordRole) (step : RecordStep ρ)
    (received : List ρ) (status : Status) (r : ρ) :
    (Station.process seconds ⟨place, .record role step, received, status⟩ r).effects =
      .ran place step.name (Record.key r) ::
        ((step.react received r).actions.map (Action.effect place step.name) ++
          [.noted place step.name
            ((step.react received r).outcome.note seconds (Record.key r))]) :=
  rfl

theorem process_counts (place : Nat) (role : RecordRole) (step : RecordStep ρ)
    (received : List ρ) (status : Status) (r : ρ)
    (warnsOnly : (Step.record role step).WarnsOnly) :
    let s : Station ρ := ⟨place, .record role step, received, status⟩
    let p := s.process seconds r
    p.station.status.counts.processed = s.status.counts.processed + 1 ∧
      p.station.stopped + p.next.toList.length = s.stopped + 1 ∧
      runsAt place p.effects = 1 := by
  intro s p
  obtain ⟨scanned, filtered, _, failures⟩ :=
    views_of_response seconds (Record.key r) (step.react received r) (warnsOnly received r)
  have noted : p.station.status = status.noteAll
      ((step.react received r).notes seconds (Record.key r)) := rfl
  have answers : step.answers (received ++ [r]) =
      step.answers received ++ [(r, step.react received r)] :=
    zip_responses_concat step [] received r
  -- by what becomes of the record: it counts once, stops here or goes on, and is one call
  refine ⟨?_, ?_, ?_⟩
  · rw [noted, Status.noteAll_eq, scanned, filtered, failures]
    cases outcome : (step.react received r).outcome <;>
      simp [Status.counts, Counts.processed, outcome, Outcome.isScanned, Outcome.filtered?,
        Outcome.failure?, s] <;> omega
  · have after : p.station.stopped = (step.answers (received ++ [r])).countP
          (fun a => a.2.outcome.isConsumed) + p.station.status.filtered +
        p.station.status.failed := rfl
    have next : p.next = (step.react received r).outcome.next? := rfl
    rw [after, noted, Status.noteAll_eq, filtered, failures, answers, next]
    cases outcome : (step.react received r).outcome <;>
      simp [Station.stopped, outcome, Outcome.isConsumed, Outcome.filtered?, Outcome.failure?,
        Outcome.next?, s] <;> omega
  · have actions : runsAt place ((step.react received r).actions.map
        (Action.effect place step.name)) = 0 := runsAt_uncalled (actions_uncalled _ _ _)
    rw [process_effects, runsAt, List.countP_cons, List.countP_append, ← runsAt, actions]
    simp [Effect.isRunAt]

theorem process_stopped (s : Station ρ) (r : ρ) (warnsOnly : s.step.WarnsOnly) :
    (s.process seconds r).station.stopped + (s.process seconds r).next.toList.length =
      s.stopped + 1 := by
  obtain ⟨place, step, received, status⟩ := s
  cases step with
  | bulk sink => rfl
  | record role step => exact (process_counts seconds place role step received status r warnsOnly).2.1

theorem process_tallied (s : Station ρ) (r : ρ) (warnsOnly : s.step.WarnsOnly)
    {trace : List Effect} (tallied : s.Tallied trace) :
    (s.process seconds r).station.Tallied (trace ++ (s.process seconds r).effects) := by
  obtain ⟨place, step, received, status⟩ := s
  cases step with
  | bulk sink =>
    rw [append_process_bulk]
    exact tallied
  | record role step =>
    obtain ⟨processed, _, runs⟩ :=
      process_counts seconds place role step received status r warnsOnly
    refine ⟨?_, ?_⟩
    · intro _ _ _
      have before := tallied.runs role step rfl
      simp only at before
      rw [processed, runsAt_append]
      show _ = runsAt place trace + runsAt place _
      rw [runs, ← before]
    · intro sink bulk
      cases bulk

def StopsOnce (before : List (Station ρ)) (q : Routed ρ) : Prop :=
  (q.left.isSome ∧ q.stations.map Station.stopped = before.map Station.stopped) ∨
    q.left = none ∧ ∃ i, i < before.length ∧
      q.stations.map Station.stopped = (before.map Station.stopped).modify i (· + 1)

theorem route_stops_once (stations : List (Station ρ)) (r : ρ)
    (warnsOnly : ∀ s ∈ stations, s.step.WarnsOnly) :
    StopsOnce stations (route seconds stations r) := by
  induction stations generalizing r with
  | nil => exact .inl ⟨rfl, rfl⟩
  | cons s rest ih =>
    have stopped := process_stopped seconds s r (warnsOnly s List.mem_cons_self)
    cases passed : (s.process seconds r).next with
    | none =>
      simp only [passed, Option.toList_none, List.length_nil, Nat.add_zero] at stopped
      refine .inr ⟨by simp only [route, passed], 0, Nat.zero_lt_succ _, ?_⟩
      simp only [route, passed, List.map_cons, stopped, List.modify_zero_cons]
    | some r' =>
      simp only [passed, Option.toList_some, List.length_singleton, Nat.add_right_cancel_iff]
        at stopped
      rcases ih r' fun t member => warnsOnly t (List.mem_cons_of_mem s member) with
        ⟨left, same⟩ | ⟨left, i, less, one⟩
      · refine .inl ⟨by simpa only [route, passed] using left, ?_⟩
        simp only [route, passed, List.map_cons, stopped, same]
      · refine .inr ⟨by simpa only [route, passed] using left, i + 1, Nat.succ_lt_succ less, ?_⟩
        simp only [route, passed, List.map_cons, stopped, one, List.modify_succ_cons]

theorem sum_modify_succ (counts : List Nat) (i : Nat) (less : i < counts.length) :
    (counts.modify i (· + 1)).sum = counts.sum + 1 := by
  induction counts generalizing i with
  | nil => cases less
  | cons n rest ih =>
    cases i with
    | zero =>
      simp only [List.modify_zero_cons, List.sum_cons]
      omega
    | succ i =>
      have later := ih i (Nat.lt_of_succ_lt_succ less)
      simp only [List.modify_succ_cons, List.sum_cons, later]
      omega

theorem route_conserves (stations : List (Station ρ)) (r : ρ)
    (warnsOnly : ∀ s ∈ stations, s.step.WarnsOnly) :
    ((route seconds stations r).stations.map Station.stopped).sum +
        (route seconds stations r).left.toList.length =
      (stations.map Station.stopped).sum + 1 := by
  rcases route_stops_once seconds stations r warnsOnly with ⟨left, same⟩ | ⟨left, i, less, one⟩
  · obtain ⟨r', left⟩ := Option.isSome_iff_exists.mp left
    rw [same, left]
    rfl
  · rw [one, left, sum_modify_succ _ i (by simpa using less)]
    rfl

/-- What each station keeps while it is given a record, and while something is done elsewhere, all of
them keep while a record is routed. -/
theorem route_keeps {Q : Step ρ → Prop} {P : List Effect → Station ρ → Prop}
    (later : ∀ {s trace more}, P trace s → runsAt s.place more = 0 → P (trace ++ more) s)
    (here : ∀ {s trace} (r : ρ), Q s.step → P trace s →
      P (trace ++ (s.process seconds r).effects) (s.process seconds r).station)
    (stations : List (Station ρ)) (r : ρ) (each : ∀ s ∈ stations, Q s.step)
    (apart : (stations.map (·.place)).Nodup) {trace : List Effect}
    (kept : ∀ s ∈ stations, P trace s) :
    ∀ s ∈ (route seconds stations r).stations,
      P (trace ++ (route seconds stations r).effects) s := by
  induction stations generalizing r trace with
  | nil =>
    intro s member
    cases member
  | cons s rest ih =>
    have first := here r (each s List.mem_cons_self) (kept s List.mem_cons_self)
    rw [List.map_cons, List.nodup_cons] at apart
    -- what is done at this station is not done at the others
    have others : ∀ t ∈ rest, P (trace ++ (s.process seconds r).effects) t := by
      intro t member
      refine later (kept t (List.mem_cons_of_mem s member)) (process_elsewhere seconds s r ?_)
      intro same
      exact apart.1 (same ▸ List.mem_map_of_mem member)
    cases passed : (s.process seconds r).next with
    | none =>
      simp only [route, passed]
      intro t member
      rcases List.mem_cons.mp member with rfl | after
      · exact first
      · exact others t after
    | some r' =>
      simp only [route, passed, ← List.append_assoc]
      intro t member
      rcases List.mem_cons.mp member with rfl | after
      · refine later first (route_elsewhere seconds rest r' ?_)
        rw [(process_fixed seconds s r).1]
        exact apart.1
      · exact ih r' (fun u member => each u (List.mem_cons_of_mem s member)) apart.2 others t after

theorem route_tallied (stations : List (Station ρ)) (r : ρ)
    (warnsOnly : ∀ s ∈ stations, s.step.WarnsOnly) (apart : (stations.map (·.place)).Nodup)
    {trace : List Effect} (tallied : ∀ s ∈ stations, s.Tallied trace) :
    ∀ s ∈ (route seconds stations r).stations,
      s.Tallied (trace ++ (route seconds stations r).effects) :=
  route_keeps seconds (P := fun trace s => s.Tallied trace) Station.Tallied.later
    (fun r warns tallied => process_tallied seconds _ r warns tallied) stations r warnsOnly apart
    tallied

end Stations

section Publishing

variable {staged : List String} {stations : List (Station ρ)} {p : Published ρ}

theorem publish_stopped (published : publish staged stations = some p) :
    p.stations.map Station.stopped = stations.map Station.stopped := by
  obtain ⟨before, s, sink, after, rfl, bulk, _, rfl⟩ := publish_cases staged stations p published
  simp [Station.stopped, bulk]

theorem publish_tallied (published : publish staged stations = some p) {trace : List Effect}
    (tallied : ∀ s ∈ stations, s.Tallied trace) :
    ∀ s ∈ p.stations, s.Tallied (trace ++ p.effects) := by
  obtain ⟨before, s, sink, after, rfl, bulk, _, rfl⟩ := publish_cases staged stations p published
  have quiet : ∀ place, runsAt place (.bulkRan s.place sink.name ::
      (sink.publish staged).actions.map (Action.effect s.place sink.name)) = 0 := by
    intro place
    rw [runsAt, List.countP_cons, ← runsAt, runsAt_uncalled (actions_uncalled _ _ _)]
    rfl
  intro t member
  rcases List.mem_append.mp member with early | here
  · exact (tallied t (List.mem_append_left _ early)).later (quiet t.place)
  · rcases List.mem_cons.mp here with rfl | late
    · -- this is the bulk sink that has run
      refine ⟨?_, ?_⟩
      · intro role step record
        rw [bulk] at record
        cases record
      · intro _ _ idle
        rw [bulkRunsAt_append] at idle
        simp [bulkRunsAt, Effect.isBulkRunAt] at idle
    · have known := tallied t (List.mem_append_right _ (List.mem_cons_of_mem s late))
      exact known.later (quiet t.place)

end Publishing

end Intake
