import Intake.Run.Basic

/-!
What a run of the pipeline leaves in the trace. Draining the source and publishing call the
components and write their statuses; they report nothing, emit nothing, close nothing and do not
touch the timer.
-/
namespace Intake

variable {ρ : Type}

namespace Effect

def closed? : Effect → Option (Component × Reply)
  | .closed component reply => some (component, reply)
  | _ => none

def isLog : Effect → Bool
  | .logged _ => true
  | _ => false

def timer? : Effect → Option Bool
  | .timerStarted => some true
  | .timerStopped => some false
  | _ => none

def isPull : Effect → Bool
  | .pulled _ _ => true
  | _ => false

def isCall : Effect → Bool
  | .pulled _ _ | .ran _ _ _ | .bulkRan _ _ => true
  | _ => false

def isBulkRun : Effect → Bool
  | .bulkRan _ _ => true
  | _ => false

def isRouting : Effect → Bool
  | .ran _ _ _ | .noted _ _ _ | .staged _ | .progressAwaited => true
  | _ => false

/-- A component gets work, or somebody outside is told something. -/
def isWork : Effect → Bool
  | .pulled _ _ | .ran _ _ _ | .bulkRan _ _ | .emitted _ _ | .reported _ => true
  | _ => false

/-- The effect stays within the pipeline. -/
def isInner : Effect → Bool
  | .logged _ | .pulled _ _ | .ran _ _ _ | .bulkRan _ _ | .noted _ _ _ | .staged _
  | .progressAwaited => true
  | _ => false

theorem eq_logged {e : Effect} (log : e.isLog = true) : ∃ entry, e = .logged entry := by
  cases e <;> first | exact ⟨_, rfl⟩ | cases log

end Effect

def closesIn (trace : List Effect) : List (Component × Reply) := trace.filterMap Effect.closed?

def closes (closings : List (Component × Reply)) : List Effect :=
  closings.map fun c => .closed c.1 c.2

/-- The timer runs at the end of the trace. -/
def timerRuns (trace : List Effect) : Bool :=
  ((trace.filterMap Effect.timer?).getLast?).getD false

def pullsIn (trace : List Effect) : Nat := trace.countP Effect.isPull

def callsIn (trace : List Effect) : List Effect := trace.filter Effect.isCall

theorem closesIn_append (a b : List Effect) : closesIn (a ++ b) = closesIn a ++ closesIn b :=
  List.filterMap_append

theorem closesIn_closes (closings : List (Component × Reply)) :
    closesIn (closes closings) = closings := by
  induction closings with
  | nil => rfl
  | cons c rest ih =>
    have first : closesIn (closes (c :: rest)) = c :: closesIn (closes rest) := rfl
    rw [first, ih]

theorem timerRuns_untimed {before after : List Effect}
    (untimed : after.filterMap Effect.timer? = []) :
    timerRuns (before ++ after) = timerRuns before := by
  rw [timerRuns, List.filterMap_append, untimed, List.append_nil]
  rfl

theorem pullsIn_append (a b : List Effect) : pullsIn (a ++ b) = pullsIn a + pullsIn b :=
  List.countP_append

theorem callsIn_append (a b : List Effect) : callsIn (a ++ b) = callsIn a ++ callsIn b :=
  List.filter_append _ _

theorem unpulled_of_uncalled {trace : List Effect} (uncalled : ∀ e ∈ trace, e.isCall = false) :
    ∀ e ∈ trace, e.isPull = false := by
  intro e member
  have silent := uncalled e member
  cases e <;> first | rfl | cases silent

theorem callsIn_none {trace : List Effect} (silent : ∀ e ∈ trace, e.isCall = false) :
    callsIn trace = [] :=
  List.filter_eq_nil_iff.mpr fun e member => by simp [silent e member]

theorem bulkRun_mem_callsIn {trace : List Effect} {e : Effect} (member : e ∈ trace)
    (bulk : e.isBulkRun = true) : e ∈ callsIn trace := by
  refine List.mem_filter.mpr ⟨member, ?_⟩
  cases e <;> first | rfl | cases bulk

theorem pullsIn_callsIn (trace : List Effect) : pullsIn (callsIn trace) = pullsIn trace := by
  rw [pullsIn, callsIn, List.countP_filter]
  refine List.countP_congr fun e _ => ?_
  cases e <;> rfl

def Inner (trace : List Effect) : Prop := ∀ e ∈ trace, e.isInner = true

namespace Inner

theorem nil : Inner [] := List.forall_mem_nil _

theorem append {a b : List Effect} (left : Inner a) (right : Inner b) : Inner (a ++ b) :=
  List.forall_mem_append.mpr ⟨left, right⟩

theorem cons {e : Effect} {a : List Effect} (first : e.isInner = true) (rest : Inner a) :
    Inner (e :: a) :=
  List.forall_mem_cons.mpr ⟨first, rest⟩

/-- A view that overlooks all inner effects finds nothing in an inner trace. -/
theorem view {β : Type} {trace : List Effect} (inner : Inner trace) (view : Effect → Option β)
    (overlooks : ∀ e, e.isInner = true → view e = none) : trace.filterMap view = [] :=
  List.filterMap_eq_nil_iff.mpr fun e member => overlooks e (inner e member)

theorem closes {trace : List Effect} (inner : Inner trace) : closesIn trace = [] :=
  inner.view _ fun e h => by cases e <;> first | rfl | cases h

theorem reports {trace : List Effect} (inner : Inner trace) : reportsIn trace = [] :=
  inner.view _ fun e h => by cases e <;> first | rfl | cases h

theorem events {trace : List Effect} (inner : Inner trace) : eventsIn trace = [] :=
  inner.view _ fun e h => by cases e <;> first | rfl | cases h

theorem untimed {trace : List Effect} (inner : Inner trace) :
    trace.filterMap Effect.timer? = [] :=
  inner.view _ fun e h => by cases e <;> first | rfl | cases h

end Inner

theorem logs_inner (entries : List Log.Entry) : Inner (entries.map .logged) := by
  intro e member
  obtain ⟨_, _, rfl⟩ := List.mem_map.mp member
  rfl

/-- All effects stay within the pipeline, and none of them is a pull. -/
def Handling (trace : List Effect) : Prop := ∀ e ∈ trace, e.isInner = true ∧ e.isPull = false

namespace Handling

theorem nil : Handling [] := List.forall_mem_nil _

theorem append {a b : List Effect} (left : Handling a) (right : Handling b) : Handling (a ++ b) :=
  List.forall_mem_append.mpr ⟨left, right⟩

theorem cons {e : Effect} {a : List Effect} (first : e.isInner = true ∧ e.isPull = false)
    (rest : Handling a) : Handling (e :: a) :=
  List.forall_mem_cons.mpr ⟨first, rest⟩

theorem inner {trace : List Effect} (handling : Handling trace) : Inner trace :=
  fun e member => (handling e member).1

theorem pulls {trace : List Effect} (handling : Handling trace) : pullsIn trace = 0 := by
  refine List.countP_eq_zero.mpr fun e member => ?_
  rw [(handling e member).2]
  exact Bool.false_ne_true

end Handling

def Routing (trace : List Effect) : Prop := ∀ e ∈ trace, e.isRouting = true

theorem Routing.append {a b : List Effect} (left : Routing a) (right : Routing b) :
    Routing (a ++ b) :=
  List.forall_mem_append.mpr ⟨left, right⟩

theorem Routing.handling {trace : List Effect} (routing : Routing trace) : Handling trace := by
  intro e member
  have routed := routing e member
  cases e <;> first | exact ⟨rfl, rfl⟩ | cases routed

theorem actions_routing (place : Nat) (name : String) (actions : List Action) :
    Routing (actions.map (Action.effect place name)) := by
  intro e member
  obtain ⟨a, _, rfl⟩ := List.mem_map.mp member
  cases a <;> rfl

theorem actions_handling (place : Nat) (name : String) (actions : List Action) :
    Handling (actions.map (Action.effect place name)) :=
  (actions_routing place name actions).handling

theorem actions_uncalled (place : Nat) (name : String) (actions : List Action) :
    ∀ e ∈ actions.map (Action.effect place name), e.isCall = false := by
  intro e member
  obtain ⟨a, _, rfl⟩ := List.mem_map.mp member
  cases a <;> rfl

section Draining

variable [Record ρ]

theorem process_routing (seconds : Float) (s : Station ρ) (r : ρ) :
    Routing (s.process seconds r).effects := by
  unfold Station.process
  split
  · exact List.forall_mem_nil _
  · rename_i role step _
    intro e member
    simp only [Response.call, List.cons_append, List.mem_cons, List.mem_append,
      List.not_mem_nil, or_false] at member
    rcases member with rfl | acted | rfl
    · rfl
    · exact actions_routing _ _ _ e acted
    · rfl

theorem route_routing (seconds : Float) (stations : List (Station ρ)) (r : ρ) :
    Routing (route seconds stations r).effects := by
  induction stations generalizing r with
  | nil => exact List.forall_mem_nil _
  | cons s rest ih =>
    have first := process_routing seconds s r
    cases passed : (s.process seconds r).next with
    | none => simpa only [route, passed] using first
    | some r' => simpa only [route, passed] using first.append (ih r')

theorem enter_routing (seconds : Float) (stations : List (Station ρ)) (item : Item ρ) :
    Routing (item.enter seconds stations).effects := by
  cases item with
  | record r => exact route_routing seconds stations r
  | filtered key reason => exact List.forall_mem_nil _
  | failed f => exact List.forall_mem_nil _

theorem enter_handling (seconds : Float) (stations : List (Station ρ)) (item : Item ρ) :
    Handling (item.enter seconds stations).effects :=
  (enter_routing seconds stations item).handling

theorem pull_first (name : String) (p : Pull ρ) :
    ∃ tail, p.effects name = .pulled name (p.drawn.toOption.map Item.key) :: tail ∧
      Routing tail ∧ ∀ e ∈ tail, e.isCall = false := by
  have actions := actions_routing 0 name p.actions
  have uncalled := actions_uncalled 0 name p.actions
  cases drawn : p.drawn with
  | error stop =>
    refine ⟨_, ?_, actions, uncalled⟩
    simp only [Pull.effects, Pull.call, drawn, List.append_nil]
  | ok item =>
    refine ⟨p.actions.map (Action.effect 0 name) ++ [.noted 0 name item.note], ?_,
      actions.append (List.forall_mem_singleton.mpr rfl),
      List.forall_mem_append.mpr ⟨uncalled, List.forall_mem_singleton.mpr rfl⟩⟩
    simp only [Pull.effects, Pull.call, drawn, List.cons_append]

theorem pull_pulls (name : String) (p : Pull ρ) : pullsIn (p.effects name) = 1 := by
  obtain ⟨tail, effects, routing, _⟩ := pull_first name p
  have none := routing.handling.pulls
  rw [pullsIn] at none
  rw [effects, pullsIn, List.countP_cons, none]
  rfl

theorem drain_effects (seconds : Float) (name : String) (rest : Stop) (ps : List (Pull ρ))
    (g : Progress ρ) :
    ∀ e ∈ (drain seconds name rest ps g).effects, e.isPull = true ∨ e.isRouting = true := by
  induction ps generalizing g with
  | nil => exact List.forall_mem_singleton.mpr (.inl rfl)
  | cons p ps ih =>
    obtain ⟨tail, effects, routing, _⟩ := pull_first name p
    have first : ∀ e ∈ p.effects name, e.isPull = true ∨ e.isRouting = true := by
      rw [effects]
      exact List.forall_mem_cons.mpr ⟨.inl rfl, fun e member => .inr (routing e member)⟩
    cases drawn : p.drawn with
    | error stop => simpa only [drain, drawn] using first
    | ok item =>
      have entered := enter_routing seconds g.stations item
      simp only [drain, drawn, List.mem_append]
      rintro e (here | routed | later)
      · exact first e here
      · exact .inr (entered e routed)
      · exact ih _ e later

theorem drain_inner (seconds : Float) (name : String) (rest : Stop) (ps : List (Pull ρ))
    (g : Progress ρ) : Inner (drain seconds name rest ps g).effects := by
  intro e member
  have known := drain_effects seconds name rest ps g e member
  cases e <;> simp_all [Effect.isInner, Effect.isPull, Effect.isRouting]

end Draining

/-- Publishing is the work of one bulk sink, before which there are record steps only. -/
theorem publish_cases (staged : List String) (stations : List (Station ρ)) (p : Published ρ)
    (published : publish staged stations = some p) :
    ∃ before s sink after, stations = before ++ s :: after ∧ s.step = .bulk sink ∧
      (∀ t ∈ before, ∃ role step, t.step = .record role step) ∧
      p = ⟨before ++ { s with
            status := s.status.noteAll (notesOf (sink.publish staged).actions) } :: after,
          sink.name, (sink.publish staged).reply,
          .bulkRan s.place sink.name ::
            (sink.publish staged).actions.map (Action.effect s.place sink.name)⟩ := by
  induction stations generalizing p with
  | nil => cases published
  | cons t rest ih =>
    cases kind : t.step with
    | bulk sink =>
      simp only [publish, kind, Option.some.injEq] at published
      exact ⟨[], t, sink, rest, rfl, kind, List.forall_mem_nil _, by simp [← published, kind]⟩
    | record role step =>
      simp only [publish, kind, Option.map_eq_some_iff] at published
      obtain ⟨q, inner, rfl⟩ := published
      obtain ⟨before, s, sink, after, rfl, isBulk, records, rfl⟩ := ih q inner
      refine ⟨t :: before, s, sink, after, rfl, isBulk, ?_, rfl⟩
      intro u member
      rcases List.mem_cons.mp member with rfl | later
      · exact ⟨role, step, kind⟩
      · exact records u later

theorem runBulkSink_handling (runId : String) (staged : List String) (g : Progress ρ) :
    Handling (runBulkSink runId staged g).effects := by
  unfold runBulkSink
  split
  · exact .cons ⟨rfl, rfl⟩ .nil
  · rename_i p published
    obtain ⟨_, s, sink, _, _, _, _, rfl⟩ := publish_cases staged g.stations p published
    exact .cons ⟨rfl, rfl⟩ (.cons ⟨rfl, rfl⟩ (actions_handling _ _ _))

/-- Either the source ends the run, or the bulk sink comes after it. -/
theorem run_cases [Record ρ] (s : Source ρ) (runId : String) (seconds : Float) (g : Progress ρ) :
    let d := s.drain seconds g
    let b := runBulkSink runId (stagedIn d.effects) d.progress
    (d.stop ≠ .exhausted ∧ ∃ result, s.run runId seconds g = ⟨d.progress, result, d.effects⟩) ∨
      d.stop = .exhausted ∧
        s.run runId seconds g = ⟨b.progress, b.result, d.effects ++ b.effects⟩ := by
  intro d b
  cases stop : d.stop with
  | exhausted => exact .inr ⟨rfl, by simp only [Source.run, d, b, stop]⟩
  | failed e => exact .inl ⟨Stop.noConfusion, _, by simp only [Source.run, d, stop]; rfl⟩
  | panicked p => exact .inl ⟨Stop.noConfusion, _, by simp only [Source.run, d, stop]; rfl⟩

theorem run_inner [Record ρ] (s : Source ρ) (runId : String) (seconds : Float) (g : Progress ρ) :
    Inner (s.run runId seconds g).effects := by
  have drained : Inner (s.drain seconds g).effects := drain_inner seconds s.name s.rest s.pulls g
  rcases run_cases s runId seconds g with ⟨_, _, ended⟩ | ⟨_, went⟩
  · rw [ended]
    exact drained
  · rw [went]
    exact drained.append (runBulkSink_handling _ _ _).inner

end Intake
