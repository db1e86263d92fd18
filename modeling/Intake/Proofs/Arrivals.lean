import Intake.Proofs.Tallies
import Mathlib.Data.List.Basic

/-!
What arrives at a step. While the source is drained a step is run on every record that comes to it,
in order and once, and what comes to it is what the steps in front of it pass on.
-/
namespace Intake

variable {ρ : Type}

def Effect.keyAt? (place : Nat) : Effect → Option String
  | .ran at' _ key => if at' = place then some key else none
  | _ => none

def keysAt (place : Nat) (trace : List Effect) : List String :=
  trace.filterMap (Effect.keyAt? place)

theorem keysAt_append (place : Nat) (trace more : List Effect) :
    keysAt place (trace ++ more) = keysAt place trace ++ keysAt place more :=
  List.filterMap_append

theorem keysAt_ran (place : Nat) (step key : String) (trace : List Effect) :
    keysAt place (.ran place step key :: trace) = key :: keysAt place trace := by
  simp [keysAt, Effect.keyAt?]

theorem keysAt_elsewhere {place : Nat} {trace : List Effect} (elsewhere : runsAt place trace = 0) :
    keysAt place trace = [] := by
  refine List.filterMap_eq_nil_iff.mpr fun e member => ?_
  have other := List.countP_eq_zero.mp elsewhere e member
  cases e <;> simp_all [Effect.isRunAt, Effect.keyAt?]

theorem keysAt_callsIn (place : Nat) (trace : List Effect) :
    keysAt place (callsIn trace) = keysAt place trace := by
  rw [keysAt, callsIn, List.filterMap_filter]
  refine List.filterMap_congr fun e _ => ?_
  cases e <;> rfl

variable [Record ρ]

/-- The trace shows the records that the station has received. -/
def Station.Shown (trace : List Effect) (s : Station ρ) : Prop :=
  keysAt s.place trace = s.received.map Record.key

theorem Station.Shown.later {s : Station ρ} {trace more : List Effect} (shown : s.Shown trace)
    (elsewhere : runsAt s.place more = 0) : s.Shown (trace ++ more) := by
  rw [Shown, keysAt_append, keysAt_elsewhere elsewhere, List.append_nil]
  exact shown

section Draining

variable (seconds : Float)

theorem process_shown (s : Station ρ) (r : ρ) {trace : List Effect} (shown : s.Shown trace) :
    (s.process seconds r).station.Shown (trace ++ (s.process seconds r).effects) := by
  obtain ⟨place, step, received, status⟩ := s
  cases step with
  | bulk sink =>
    rw [append_process_bulk]
    exact shown
  | record role step =>
    let response := step.react received r
    have actions : keysAt place (response.actions.map (Action.effect place step.name)) = [] :=
      keysAt_elsewhere (runsAt_uncalled (actions_uncalled _ _ _))
    have noted : keysAt place
        [.noted place step.name (response.outcome.note seconds (Record.key r))] = [] := rfl
    have all : keysAt place trace ++ [Record.key r] = (received ++ [r]).map Record.key := by
      rw [List.map_append, show keysAt place trace = received.map Record.key from shown]
      rfl
    rw [Station.Shown, process_effects, (process_fixed seconds _ r).1, keysAt_append, keysAt_ran,
      keysAt_append, actions, noted]
    exact all

theorem enter_shown (stations : List (Station ρ)) (item : Item ρ)
    (apart : (stations.map (·.place)).Nodup) {trace : List Effect}
    (shown : ∀ s ∈ stations, s.Shown trace) :
    ∀ s ∈ (item.enter seconds stations).stations,
      s.Shown (trace ++ (item.enter seconds stations).effects) := by
  cases item with
  | record r =>
    exact route_keeps seconds (Q := fun _ => True) (P := fun trace s => s.Shown trace)
      Station.Shown.later (fun r _ shown => process_shown seconds _ r shown) stations r
      (fun _ _ => trivial) apart shown
  | filtered key reason => simpa only [Item.enter, List.append_nil] using shown
  | failed f => simpa only [Item.enter, List.append_nil] using shown

theorem drain_shown (name : String) (rest : Stop) (ps : List (Pull ρ)) (g : Progress ρ)
    (apart : (g.stations.map (·.place)).Nodup) {trace : List Effect}
    (shown : ∀ s ∈ g.stations, s.Shown trace) :
    ∀ s ∈ (drain seconds name rest ps g).progress.stations,
      s.Shown (trace ++ (drain seconds name rest ps g).effects) := by
  induction ps generalizing g trace with
  | nil => exact fun s member => (shown s member).later rfl
  | cons p ps ih =>
    have pulled : ∀ s ∈ g.stations, s.Shown (trace ++ p.effects name) :=
      fun s member => (shown s member).later (pull_unrun name p s.place)
    cases drawn : p.drawn with
    | error stop => simpa only [drain, drawn] using pulled
    | ok item =>
      have places : ((item.enter seconds g.stations).stations.map (·.place)).Nodup := by
        rw [places_of_fixtures, enter_fixtures, ← places_of_fixtures]
        exact apart
      have later := ih ⟨g.source.noteAll p.notes, (item.enter seconds g.stations).stations⟩ places
        (enter_shown seconds g.stations item apart pulled)
      simpa only [drain, drawn, List.append_assoc] using later

end Draining

section Starting

variable (startedAt : Instant) (seconds : Float)

omit seconds in
theorem startAll_shown (steps : List (Step ρ)) :
    ∀ s ∈ Station.startAll startedAt steps, s.Shown [] := by
  intro s member
  obtain ⟨_, _, rfl⟩ := List.mem_mapIdx.mp member
  rfl

theorem afterAll_received (place : Nat) (s : Step ρ) (rs : List ρ) :
    ((Station.start startedAt place s).afterAll seconds rs).received = s.handed rs := by
  cases s with
  | bulk sink => exact congrArg Station.received (afterAll_bulk seconds place sink [] _ rs)
  | record role s =>
    exact congrArg Station.received (afterAll_record seconds place role s [] _ rs)

/-- Whatever the steps note by the way, each receives what the reference hands to it. -/
theorem sweep_received (place : Nat) (steps : List (Step ρ)) (rs : List ρ) :
    (sweep seconds (steps.mapIdx fun i s => Station.start startedAt (i + place) s) rs).map
        (fun s => (s.place, s.received)) =
      (breadthFirst startedAt seconds place steps rs).map fun s => (s.place, s.received) := by
  induction steps generalizing place rs with
  | nil => rfl
  | cons s rest ih =>
    have shifted : (fun i => Station.start (ρ := ρ) startedAt (i + 1 + place)) =
        fun i => Station.start startedAt (i + (place + 1)) := by
      funext i
      rw [Nat.add_assoc, Nat.add_comm 1]
    have placed := (afterAll_fixed seconds (Station.start startedAt place s) rs).1
    simp only [List.mapIdx_cons, Nat.zero_add, sweep, breadthFirst, passedOn_start, shifted,
      List.map_cons, afterAll_received, placed, ih]
    rfl

end Starting

end Intake
