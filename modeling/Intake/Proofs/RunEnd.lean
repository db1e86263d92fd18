import Intake.Proofs.BreadthFirst
import Intake.Proofs.Trace

/-!
How a run ends. The first pull without an item ends the source, the reply of the first bulk sink
ends what follows, and nothing else has a say. The components stay what they are and where they
stand.
-/
namespace Intake

variable {ρ : Type}

namespace Source

/-- The source gives `k` items and then stops; what it would give after that does not matter. -/
def StopsAfter (s : Source ρ) (k : Nat) (stop : Stop) : Prop :=
  (∀ n, n < k → ∃ item, (s.pull n).drawn = .ok item) ∧ (s.pull k).drawn = .error stop

theorem StopsAfter.unique {s : Source ρ} {j k : Nat} {stop stop' : Stop}
    (one : s.StopsAfter j stop) (other : s.StopsAfter k stop') : j = k ∧ stop = stop' := by
  -- an earlier stop would be a pull that gives an item
  have apart : ∀ {m n : Nat} {a b : Stop}, s.StopsAfter m a → s.StopsAfter n b → ¬ m < n := by
    intro m n a b first second less
    obtain ⟨item, drawn⟩ := second.1 m less
    rw [first.2] at drawn
    cases drawn
  have same : j = k :=
    Nat.le_antisymm (Nat.le_of_not_lt (apart other one)) (Nat.le_of_not_lt (apart one other))
  subst same
  have stops : Except.error stop = Except.error stop' := one.2.symm.trans other.2
  exact ⟨rfl, Except.error.inj stops⟩

theorem stopsAfter_cons (s : Source ρ) (p : Pull ρ) (ps : List (Pull ρ)) (item : Item ρ)
    (drawn : p.drawn = .ok item) (k : Nat) (stop : Stop)
    (later : { s with pulls := ps }.StopsAfter k stop) :
    { s with pulls := p :: ps }.StopsAfter (k + 1) stop := by
  refine ⟨?_, later.2⟩
  intro n less
  cases n with
  | zero => exact ⟨item, drawn⟩
  | succ n => exact later.1 n (Nat.lt_of_succ_lt_succ less)

end Source

section Draining

variable [Record ρ]

theorem drain_stopsAfter (s : Source ρ) (seconds : Float) (ps : List (Pull ρ)) (g : Progress ρ) :
    { s with pulls := ps }.StopsAfter (itemsOf ps).length
      (drain seconds s.name s.rest ps g).stop := by
  induction ps generalizing g with
  | nil => exact ⟨fun n less => absurd less (Nat.not_lt_zero n), rfl⟩
  | cons p ps ih =>
    cases drawn : p.drawn with
    | error stop =>
      simp only [itemsOf, drain, drawn]
      exact ⟨fun n less => absurd less (Nat.not_lt_zero n), drawn⟩
    | ok item =>
      simp only [itemsOf, drain, drawn]
      exact s.stopsAfter_cons p ps item drawn _ _ (ih _)

theorem source_stopsAfter (s : Source ρ) (seconds : Float) (g : Progress ρ) :
    s.StopsAfter s.items.length (s.drain seconds g).stop :=
  drain_stopsAfter s seconds s.pulls g

theorem drain_pulls (seconds : Float) (name : String) (rest : Stop) (ps : List (Pull ρ))
    (g : Progress ρ) :
    pullsIn (drain seconds name rest ps g).effects = (itemsOf ps).length + 1 := by
  induction ps generalizing g with
  | nil => rfl
  | cons p ps ih =>
    cases drawn : p.drawn with
    | error stop =>
      simp only [drain, itemsOf, drawn, pull_pulls]
      rfl
    | ok item =>
      have entered := (enter_handling seconds g.stations item).pulls
      simp only [drain, itemsOf, drawn, pullsIn_append, pull_pulls, entered, ih,
        List.length_cons]
      omega

theorem process_fixed (seconds : Float) (s : Station ρ) (r : ρ) :
    (s.process seconds r).station.place = s.place ∧
      (s.process seconds r).station.step = s.step := by
  unfold Station.process
  split <;> exact ⟨rfl, rfl⟩

theorem afterAll_fixed (seconds : Float) (s : Station ρ) (rs : List ρ) :
    (s.afterAll seconds rs).place = s.place ∧ (s.afterAll seconds rs).step = s.step := by
  induction rs generalizing s with
  | nil => exact ⟨rfl, rfl⟩
  | cons r rs ih =>
    have first := process_fixed seconds s r
    have others := ih (s.process seconds r).station
    exact ⟨others.1.trans first.1, others.2.trans first.2⟩

end Draining

def fixtures (stations : List (Station ρ)) : List (Nat × Step ρ) :=
  stations.map fun s => (s.place, s.step)

theorem steps_of_fixtures (stations : List (Station ρ)) :
    stations.map (·.step) = (fixtures stations).map (·.2) := by
  simp [fixtures]

theorem places_of_fixtures (stations : List (Station ρ)) :
    stations.map (·.place) = (fixtures stations).map (·.1) := by
  simp [fixtures]

section StartAll

variable (startedAt : Instant) (steps : List (Step ρ))

theorem startAll_getElem? {i : Nat} {step : Step ρ} (at_i : steps[i]? = some step) :
    (Station.startAll startedAt steps)[i]? = some (.start startedAt (i + 1) step) := by
  simp [Station.startAll, at_i]

theorem startAll_steps : (Station.startAll startedAt steps).map (·.step) = steps := by
  apply List.ext_getElem <;> simp [Station.startAll, Station.start]

theorem startAll_fixtures :
    fixtures (Station.startAll startedAt steps) = steps.mapIdx fun i s => (i + 1, s) := by
  apply List.ext_getElem <;> simp [fixtures, Station.startAll, Station.start]

end StartAll

theorem sweep_fixtures [Record ρ] (seconds : Float) (stations : List (Station ρ)) (rs : List ρ) :
    fixtures (sweep seconds stations rs) = fixtures stations := by
  induction stations generalizing rs with
  | nil => rfl
  | cons s rest ih =>
    have first := afterAll_fixed seconds s rs
    simpa [sweep, fixtures, first] using ih (s.passedOn seconds rs)

theorem enter_fixtures [Record ρ] (seconds : Float) (stations : List (Station ρ)) (item : Item ρ) :
    fixtures (item.enter seconds stations).stations = fixtures stations := by
  have entered := enter_sweep seconds stations item []
  rw [sweep_nil] at entered
  rw [entered, sweep_fixtures]

theorem publish_fixtures (staged : List String) (stations : List (Station ρ)) (p : Published ρ)
    (published : publish staged stations = some p) : fixtures p.stations = fixtures stations := by
  obtain ⟨before, s, sink, after, rfl, _, _, rfl⟩ := publish_cases staged stations p published
  simp [fixtures]

theorem drain_fixtures [Record ρ] (s : Source ρ) (seconds : Float) (g : Progress ρ) :
    fixtures (s.drain seconds g).progress.stations = fixtures g.stations := by
  rw [Source.drain, drain_stations, sweep_fixtures]

theorem drain_station [Record ρ] (s : Source ρ) (seconds : Float) (g : Progress ρ) {i : Nat}
    {t : Station ρ} (at_i : g.stations[i]? = some t) :
    ∃ u, (s.drain seconds g).progress.stations[i]? = some u ∧ u.step = t.step := by
  refine Option.map_eq_some_iff.mp ?_
  rw [← List.getElem?_map, steps_of_fixtures, drain_fixtures, ← steps_of_fixtures,
    List.getElem?_map, at_i]
  rfl

theorem runBulkSink_fixtures (runId : String) (staged : List String) (g : Progress ρ) :
    fixtures (runBulkSink runId staged g).progress.stations = fixtures g.stations := by
  unfold runBulkSink
  split
  · rfl
  · rename_i p published
    exact publish_fixtures staged g.stations p published

theorem run_fixtures [Record ρ] (s : Source ρ) (runId : String) (seconds : Float)
    (g : Progress ρ) :
    fixtures (s.run runId seconds g).progress.stations = fixtures g.stations := by
  rcases run_cases s runId seconds g with ⟨_, _, ended⟩ | ⟨_, went⟩
  · rw [ended, drain_fixtures]
  · rw [went, runBulkSink_fixtures, drain_fixtures]

/-- How the first bulk sink among the steps ends when it finds these keys, if there is one. -/
def bulkEnd (staged : List String) : List (Step ρ) → Option (String × Reply)
  | [] => none
  | .bulk sink :: _ => some (sink.name, (sink.publish staged).reply)
  | .record _ _ :: rest => bulkEnd staged rest

theorem publish_end (staged : List String) (stations : List (Station ρ)) :
    (publish staged stations).map (fun p => (p.sink, p.reply)) =
      bulkEnd staged (stations.map (·.step)) := by
  induction stations with
  | nil => rfl
  | cons s rest ih =>
    cases kind : s.step with
    | bulk sink => simp [publish, bulkEnd, kind]
    | record role step =>
      simp only [publish, List.map_cons, kind, bulkEnd, Option.map_map, ← ih]
      rfl

/-- What the stop of the source and the end of the bulk sink make of the run. -/
def runEnd (source : String) : Stop → Option (String × Reply) → Except WorkflowError Unit
  | .failed e, _ => .error (.sourceFailed source e)
  | .panicked p, _ => .error (.panicked p.message)
  | .exhausted, none => .ok ()
  | .exhausted, some (sink, reply) => bulkResult sink reply

theorem runBulkSink_result (runId : String) (staged : List String) (source : String)
    (g : Progress ρ) :
    (runBulkSink runId staged g).result =
      runEnd source .exhausted (bulkEnd staged (g.stations.map (·.step))) := by
  rw [← publish_end]
  unfold runBulkSink
  cases publish staged g.stations <;> rfl

theorem run_result [Record ρ] (s : Source ρ) (runId : String) (seconds : Float)
    (g : Progress ρ) :
    (s.run runId seconds g).result =
      runEnd s.name (s.drain seconds g).stop
        (bulkEnd (stagedIn (s.drain seconds g).effects) (g.stations.map (·.step))) := by
  have steps : (s.drain seconds g).progress.stations.map (·.step) = g.stations.map (·.step) := by
    rw [steps_of_fixtures, steps_of_fixtures, drain_fixtures]
  cases stop : (s.drain seconds g).stop with
  | exhausted => simp only [Source.run, stop, runBulkSink_result _ _ s.name, steps]
  | failed e => simp only [Source.run, stop, runEnd]
  | panicked p => simp only [Source.run, stop, runEnd]

theorem run_pulls [Record ρ] (s : Source ρ) (runId : String) (seconds : Float) (g : Progress ρ) :
    pullsIn (s.run runId seconds g).effects = s.items.length + 1 := by
  have drained : pullsIn (s.drain seconds g).effects = s.items.length + 1 :=
    drain_pulls seconds s.name s.rest s.pulls g
  rcases run_cases s runId seconds g with ⟨_, _, ended⟩ | ⟨_, went⟩
  · rw [ended, drained]
  · rw [went, pullsIn_append, drained, (runBulkSink_handling _ _ _).pulls]

end Intake
