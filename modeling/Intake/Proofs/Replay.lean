import Intake.Proofs.Calls
import Intake.Proofs.Noting

/-!
The statuses at every moment. Each of them is what the notes in the trace have made of it so far, so
the trace up to any point tells how the components stood there, in the middle of a call as well as
between calls.
-/
namespace Intake

variable {ρ : Type}

namespace Effect

/-- What a note does to the statuses, which stand in the order of their places. -/
def write (statuses : List Status) : Effect → List Status
  | .noted place _ n => statuses.modify place fun s => s.note n
  | _ => statuses

def notedAt? (place : Nat) : Effect → Option Note
  | .noted at' _ n => if at' = place then some n else none
  | _ => none

def isNoted : Effect → Bool
  | .noted _ _ _ => true
  | _ => false

end Effect

def notesAt (place : Nat) (trace : List Effect) : List Note :=
  trace.filterMap (Effect.notedAt? place)

def statusesAfter (statuses : List Status) (trace : List Effect) : List Status :=
  trace.foldl Effect.write statuses

theorem statusesAfter_append (statuses : List Status) (a b : List Effect) :
    statusesAfter statuses (a ++ b) = statusesAfter (statusesAfter statuses a) b :=
  List.foldl_append

theorem statusesAfter_getElem? (statuses : List Status) (trace : List Effect) (place : Nat) :
    (statusesAfter statuses trace)[place]? =
      statuses[place]?.map fun s => s.noteAll (notesAt place trace) := by
  induction trace generalizing statuses with
  | nil => exact Option.map_id'.symm
  | cons e rest ih =>
    rw [statusesAfter, List.foldl_cons, ← statusesAfter, ih]
    cases e with
    | noted at' step n =>
      rw [Effect.write, List.getElem?_modify]
      by_cases here : at' = place
      · simp [notesAt, Effect.notedAt?, here, Function.comp_def, Status.noteAll]
      · simp [notesAt, Effect.notedAt?, here]
    | _ => rfl

theorem statusesAfter_skip {e : Effect} (unnoted : e.isNoted = false) (statuses : List Status)
    (rest : List Effect) : statusesAfter statuses (e :: rest) = statusesAfter statuses rest := by
  have same : e.write statuses = statuses := by cases e <;> first | rfl | cases unnoted
  rw [statusesAfter, List.foldl_cons, same, statusesAfter]

theorem statusesAfter_unnoted {trace : List Effect} (unnoted : ∀ e ∈ trace, e.isNoted = false)
    (statuses : List Status) : statusesAfter statuses trace = statuses := by
  induction trace generalizing statuses with
  | nil => rfl
  | cons e rest ih =>
    obtain ⟨here, later⟩ := List.forall_mem_cons.mp unnoted
    rw [statusesAfter_skip here]
    exact ih later statuses

theorem modify_length {α : Type} (front : List α) (x : α) (back : List α) (f : α → α) :
    (front ++ x :: back).modify front.length f = front ++ f x :: back := by
  induction front with
  | nil => rfl
  | cons y front ih => exact congrArg (y :: ·) ih

section Replaying

variable (front back : List Status)

theorem actions_replay (name : String) (actions : List Action) (s : Status) :
    statusesAfter (front ++ s :: back) (actions.map (Action.effect front.length name)) =
      front ++ s.noteAll (notesOf actions) :: back := by
  induction actions generalizing s with
  | nil => rfl
  | cons a rest ih =>
    rw [List.map_cons, statusesAfter, List.foldl_cons, ← statusesAfter]
    cases a with
    | note n =>
      rw [Action.effect, Effect.write, modify_length, ih]
      rfl
    | stage key => exact ih s
    | awaitProgress => exact ih s

def Placed (place : Nat) (stations : List (Station ρ)) : Prop :=
  stations.map (·.place) = List.range' place stations.length

theorem placed_cons {place : Nat} {s : Station ρ} {rest : List (Station ρ)} :
    Placed place (s :: rest) ↔ s.place = place ∧ Placed (place + 1) rest := by
  simp [Placed, List.range'_succ]

theorem Placed.of_fixtures {place : Nat} {stations stations' : List (Station ρ)}
    (placed : Placed place stations) (same : fixtures stations' = fixtures stations) :
    Placed place stations' := by
  have length : stations'.length = stations.length := by
    simpa [fixtures] using congrArg List.length same
  have places : stations'.map (·.place) = stations.map (·.place) := by
    rw [places_of_fixtures, places_of_fixtures, same]
  rw [Placed, places, length]
  exact placed

theorem startAll_placed (startedAt : Instant) (steps : List (Step ρ)) :
    Placed 1 (Station.startAll startedAt steps) := by
  apply List.ext_getElem <;> simp [Station.startAll, Station.start, Nat.add_comm]

variable [Record ρ] (seconds : Float)

theorem process_replay (s : Station ρ) (r : ρ) (here : s.place = front.length) :
    statusesAfter (front ++ s.status :: back) (s.process seconds r).effects =
      front ++ (s.process seconds r).station.status :: back := by
  unfold Station.process
  split
  · rfl
  · rename_i role step _
    simp only [Response.call, List.cons_append, here]
    rw [statusesAfter_skip rfl, statusesAfter_append, actions_replay, Status.noteAll_append]
    exact modify_length front _ back _

omit back in
theorem route_replay (stations : List (Station ρ)) (r : ρ)
    (placed : Placed front.length stations) :
    statusesAfter (front ++ stations.map (·.status)) (route seconds stations r).effects =
      front ++ (route seconds stations r).stations.map (·.status) := by
  induction stations generalizing front r with
  | nil => rfl
  | cons s rest ih =>
    obtain ⟨here, later⟩ := placed_cons.mp placed
    have first := process_replay front (rest.map (·.status)) seconds s r here
    cases passed : (s.process seconds r).next with
    | none => simpa only [route, passed, List.map_cons] using first
    | some r' =>
      have others := ih (front ++ [(s.process seconds r).station.status]) r' (by simpa using later)
      simp only [List.append_assoc, List.singleton_append] at others
      simp only [route, passed, statusesAfter_append, List.map_cons, first, others]

theorem enter_replay (stations : List (Station ρ)) (item : Item ρ)
    (placed : Placed front.length stations) :
    statusesAfter (front ++ stations.map (·.status)) (item.enter seconds stations).effects =
      front ++ (item.enter seconds stations).stations.map (·.status) := by
  cases item with
  | record r => exact route_replay front seconds stations r placed
  | filtered key reason => rfl
  | failed f => rfl

omit front in
theorem pull_replay (name : String) (p : Pull ρ) (source : Status) :
    statusesAfter (source :: back) (p.effects name) = source.noteAll p.notes :: back := by
  have acted := actions_replay [] back name p.actions source
  simp only [List.nil_append, List.length_nil] at acted
  cases drawn : p.drawn with
  | error stop =>
    simp only [Pull.effects, Pull.call, Pull.notes, drawn, List.append_nil]
    rw [statusesAfter_skip rfl, acted]
  | ok item =>
    simp only [Pull.effects, Pull.call, Pull.notes, drawn, List.cons_append]
    rw [statusesAfter_skip rfl, statusesAfter_append, acted, Status.noteAll_append]
    rfl

end Replaying

section Running

variable [Record ρ]

/-- The loop leaves the statuses as its trace tells. -/
theorem drain_replay (seconds : Float) (name : String) (rest : Stop) (ps : List (Pull ρ))
    (g : Progress ρ) (placed : Placed 1 g.stations) :
    statusesAfter g.statuses (drain seconds name rest ps g).effects =
      (drain seconds name rest ps g).progress.statuses := by
  -- the stations keep their places from one pull to the next, so `placed` is carried along
  induction ps generalizing g with
  | nil => rfl
  | cons p ps ih =>
    have pulled := pull_replay (g.stations.map (·.status)) name p g.source
    cases drawn : p.drawn with
    | error stop =>
      simp only [drain, drawn]
      exact pulled
    | ok item =>
      have entered := enter_replay [g.source.noteAll p.notes] seconds g.stations item placed
      have later := ih ⟨g.source.noteAll p.notes, (item.enter seconds g.stations).stations⟩
        (placed.of_fixtures (enter_fixtures seconds g.stations item))
      simp only [List.singleton_append] at entered
      simp only [drain, drawn, statusesAfter_append]
      rw [← later]
      simp only [Progress.statuses, pulled, entered]

omit [Record ρ] in
theorem runBulkSink_replay (runId : String) (staged : List String) (g : Progress ρ)
    (placed : Placed 1 g.stations) :
    statusesAfter g.statuses (runBulkSink runId staged g).effects =
      (runBulkSink runId staged g).progress.statuses := by
  unfold runBulkSink
  split
  · rfl
  · rename_i p published
    obtain ⟨before, s, sink, after, split, _, _, rfl⟩ :=
      publish_cases staged g.stations p published
    -- the place of the bulk sink is the number of the statuses in front of its own
    have here : s.place = (g.source :: before.map (·.status)).length := by
      have places : (before ++ s :: after).map (·.place) = _ := split ▸ placed
      have at_s := congrArg (fun places => places[before.length]?) places
      simpa [List.getElem?_append_right, Nat.add_comm] using at_s
    have acted := actions_replay (g.source :: before.map (·.status)) (after.map (·.status))
      sink.name (sink.publish staged).actions s.status
    rw [← here] at acted
    rw [statusesAfter_skip rfl, statusesAfter_skip rfl]
    simpa [Progress.statuses, split] using acted

theorem run_replay (s : Source ρ) (runId : String) (seconds : Float) (g : Progress ρ)
    (placed : Placed 1 g.stations) :
    statusesAfter g.statuses (s.run runId seconds g).effects =
      (s.run runId seconds g).progress.statuses := by
  have drained : statusesAfter g.statuses (s.drain seconds g).effects =
      (s.drain seconds g).progress.statuses := drain_replay seconds s.name s.rest s.pulls g placed
  rcases run_cases s runId seconds g with ⟨_, _, ended⟩ | ⟨_, went⟩
  · rw [ended, drained]
  · rw [went, statusesAfter_append, drained]
    exact runBulkSink_replay _ _ _ (placed.of_fixtures (drain_fixtures s seconds g))

end Running

namespace Workflow

theorem announce_unnoted (now : Instant) (w : Workflow ρ) :
    ∀ e ∈ (w.announce now).effects, e.isNoted = false := by
  intro e member
  rcases announce_tells now w e member with ⟨_, rfl⟩ | ⟨_, _, rfl⟩ | ⟨_, rfl⟩ <;> rfl

theorem stop_unnoted (w : Workflow ρ) : ∀ e ∈ w.stop.effects, e.isNoted = false := by
  intro e member
  rcases stop_does w e member with ⟨_, rfl⟩ | rfl | ⟨_, _, rfl⟩ <;> rfl

section Calling

variable [Record ρ] (now : Instant) {w : Workflow ρ} (placed : Placed 1 w.progress.stations)

/-- The trace tells what has become of the statuses, and every component is where it was. -/
structure Replays (w : Workflow ρ) {α : Type} (t : Turn ρ α) : Prop where
  statuses : t.workflow.progress.statuses = statusesAfter w.progress.statuses t.effects
  placed : Placed 1 t.workflow.progress.stations

include placed

theorem settled_replays : w.Replays ⟨w.settled now, (), w.settling now⟩ := by
  have failed : ∀ (v : Workflow ρ) result, ∀ e ∈ v.failureEntries result, e.isNoted = false := by
    intro v result
    cases result <;> simp [failureEntries, Effect.isNoted]
  have ran : w.Replays (w.run now) := by
    unfold run
    split
    · exact ⟨rfl, placed⟩
    · refine ⟨?_, placed.of_fixtures (run_fixtures _ _ _ _)⟩
      rw [statusesAfter_append]
      exact (run_replay _ _ _ _ placed).symm
  refine ⟨?_, ran.placed⟩
  simp only [settling, statusesAfter_append, ← ran.statuses, statusesAfter_unnoted (failed _ _)]
  rfl

theorem execute_replays : w.Replays (w.execute now) := by
  by_cases executed : w.executed = true
  · rw [execute, if_pos executed]
    exact ⟨rfl, placed⟩
  by_cases stopped : w.stopped = true
  · rw [execute, if_neg executed, if_pos stopped]
    exact ⟨rfl, placed⟩
  obtain ⟨statuses, placed'⟩ := settled_replays now placed
  have told := statusesAfter_unnoted (announce_unnoted now (w.settled now))
  rw [execute_eq now (by simpa using executed) (by simpa using stopped)]
  dsimp only
  split
  · refine ⟨?_, placed'⟩
    rw [statusesAfter_append, ← statuses, told]
  · refine ⟨?_, by rw [stop_progress]; exact placed'⟩
    rw [statusesAfter_append, statusesAfter_append, ← statuses, told,
      statusesAfter_unnoted (stop_unnoted _), stop_progress]

theorem perform_replays (c : Call) : w.Replays (w.perform c) := by
  cases c with
  | execute now =>
    obtain ⟨statuses, placed'⟩ := execute_replays now placed
    exact ⟨statuses, placed'⟩
  | stop =>
    refine ⟨?_, by simp only [perform, stop_progress]; exact placed⟩
    simp only [perform, stop_progress, statusesAfter_unnoted (stop_unnoted w)]

theorem performAll_replays (calls : List Call) : w.Replays (w.performAll calls) := by
  induction calls generalizing w with
  | nil => exact ⟨rfl, placed⟩
  | cons c rest ih =>
    obtain ⟨first, placed'⟩ := perform_replays placed c
    obtain ⟨others, last⟩ := ih placed'
    refine ⟨?_, last⟩
    simp only [performAll, statusesAfter_append, ← first]
    exact others

end Calling

end Workflow

end Intake
