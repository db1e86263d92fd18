import Intake.Proofs.Moments

/-!
Runs with their warnings left out. If no component raised a warning, the run would go the same way:
every record would come to the same steps, and the statuses and the trace would be what they are,
without the warnings in them.
-/
namespace Intake

variable {ρ : Type}

def Note.isWarning : Note → Bool
  | .warning _ _ => true
  | _ => false

def Action.isWarning : Action → Bool
  | .note n => n.isWarning
  | _ => false

namespace Effect

def isWarning : Effect → Bool
  | .noted _ _ n => n.isWarning
  | _ => false

def unwarned (trace : List Effect) : List Effect := trace.filter fun e => !e.isWarning

end Effect

def Note.unwarned (ns : List Note) : List Note := ns.filter fun n => !n.isWarning

def Action.unwarned (actions : List Action) : List Action := actions.filter fun a => !a.isWarning

section Muted

/-- The status as if no warning had been noted. -/
def Status.muted (s : Status) : Status :=
  { s with
    warnings := 0
    warningRecords := [] }

def Response.muted (r : Response ρ) : Response ρ := { r with actions := Action.unwarned r.actions }

def RecordStep.muted (s : RecordStep ρ) : RecordStep ρ :=
  { s with react := fun earlier r => (s.react earlier r).muted }

def Publication.muted (p : Publication) : Publication :=
  { p with actions := Action.unwarned p.actions }

def BulkSink.muted (s : BulkSink) : BulkSink :=
  { s with publish := fun staged => (s.publish staged).muted }

def Step.muted : Step ρ → Step ρ
  | .record role s => .record role s.muted
  | .bulk s => .bulk s.muted

def Pull.muted (p : Pull ρ) : Pull ρ := { p with actions := Action.unwarned p.actions }

def Source.muted (s : Source ρ) : Source ρ := { s with pulls := s.pulls.map Pull.muted }

def Station.muted (s : Station ρ) : Station ρ :=
  { s with
    step := s.step.muted
    status := s.status.muted }

def Progress.muted (g : Progress ρ) : Progress ρ :=
  ⟨g.source.muted, g.stations.map Station.muted⟩

end Muted

theorem noteAll_muted (s : Status) (ns : List Note) :
    (s.noteAll ns).muted = s.muted.noteAll (Note.unwarned ns) := by
  induction ns generalizing s with
  | nil => rfl
  | cons n ns ih => cases n <;> exact ih _

theorem notesOf_unwarned (actions : List Action) :
    notesOf (Action.unwarned actions) = Note.unwarned (notesOf actions) := by
  induction actions with
  | nil => rfl
  | cons a rest ih =>
    cases a with
    | note n =>
      cases n with
      | warning key message => exact ih
      | _ => exact congrArg (_ :: ·) ih
    | stage key => exact ih
    | awaitProgress => exact ih

theorem actions_unwarned (place : Nat) (name : String) (actions : List Action) :
    Effect.unwarned (actions.map (Action.effect place name)) =
      (Action.unwarned actions).map (Action.effect place name) := by
  rw [Effect.unwarned, List.filter_map]
  congr 2
  funext a
  cases a <;> rfl

theorem unwarned_append (a b : List Effect) :
    Effect.unwarned (a ++ b) = Effect.unwarned a ++ Effect.unwarned b :=
  List.filter_append a b

theorem notes_unwarned_append (a b : List Note) :
    Note.unwarned (a ++ b) = Note.unwarned a ++ Note.unwarned b :=
  List.filter_append a b

theorem stagedIn_unwarned (trace : List Effect) :
    stagedIn (Effect.unwarned trace) = stagedIn trace := by
  rw [stagedIn, Effect.unwarned, List.filterMap_filter]
  congr 1
  funext e
  cases e with
  | noted place name n => cases n <;> rfl
  | _ => rfl

namespace Step

@[simp] theorem muted_role (s : Step ρ) : s.muted.role = s.role := by cases s <;> rfl

@[simp] theorem muted_name (s : Step ρ) : s.muted.name = s.name := by cases s <;> rfl

@[simp] theorem muted_onClose (s : Step ρ) : s.muted.onClose = s.onClose := by cases s <;> rfl

end Step

theorem Station.muted_closing (s : Station ρ) :
    (s.muted.component, s.muted.step.onClose) = (s.component, s.step.onClose) := by
  simp [component, muted]

theorem startAll_muted (startedAt : Instant) (steps : List (Step ρ)) :
    (Station.startAll startedAt steps).map Station.muted =
      Station.startAll startedAt (steps.map Step.muted) := by
  apply List.ext_getElem
  · simp [Station.startAll]
  · simp [Station.startAll, Station.start, Station.muted, Status.muted, Status.start]

theorem Source.muted_pull (s : Source ρ) (n : Nat) : s.muted.pull n = (s.pull n).muted := by
  simp only [pull, muted, List.getElem?_map]
  cases s.pulls[n]? <;> rfl

section Running

variable [Record ρ] (seconds : Float)

omit [Record ρ] in
theorem Outcome.note_unwarned (o : Outcome ρ) (key : String) :
    Note.unwarned [o.note seconds key] = [o.note seconds key] := by
  cases o <;> rfl

theorem process_muted (s : Station ρ) (r : ρ) :
    s.muted.process seconds r =
      ⟨(s.process seconds r).station.muted, (s.process seconds r).next,
        Effect.unwarned (s.process seconds r).effects⟩ := by
  obtain ⟨place, step, received, status⟩ := s
  cases step with
  | bulk sink => rfl
  | record role step =>
    have noted := (step.react received r).outcome.note_unwarned seconds (Record.key r)
    have last : Effect.unwarned [.noted place step.name
        ((step.react received r).outcome.note seconds (Record.key r))] = [.noted place step.name
        ((step.react received r).outcome.note seconds (Record.key r))] := by
      cases (step.react received r).outcome <;> rfl
    have call : ∀ response : Response ρ,
        Effect.unwarned (response.call place step.name (Record.key r)) =
          response.muted.call place step.name (Record.key r) := fun response =>
      congrArg (_ :: ·) (actions_unwarned place step.name response.actions)
    simp only [Station.process, Station.muted, Step.muted, RecordStep.muted, unwarned_append, call,
      last, noteAll_muted, notes_unwarned_append, noted, ← notesOf_unwarned]
    rfl

theorem route_muted (stations : List (Station ρ)) (r : ρ) :
    route seconds (stations.map Station.muted) r =
      ⟨(route seconds stations r).stations.map Station.muted, (route seconds stations r).left,
        Effect.unwarned (route seconds stations r).effects⟩ := by
  induction stations generalizing r with
  | nil => rfl
  | cons s rest ih =>
    simp only [List.map_cons, route, process_muted]
    cases (s.process seconds r).next with
    | none => rfl
    | some r' => simp only [ih, List.map_cons, unwarned_append]

theorem enter_muted (stations : List (Station ρ)) (item : Item ρ) :
    item.enter seconds (stations.map Station.muted) =
      ⟨(item.enter seconds stations).stations.map Station.muted,
        (item.enter seconds stations).left,
        Effect.unwarned (item.enter seconds stations).effects⟩ := by
  cases item with
  | record r => exact route_muted seconds stations r
  | filtered key reason => rfl
  | failed f => rfl

theorem pull_unwarned (name : String) (p : Pull ρ) :
    p.muted.notes = Note.unwarned p.notes ∧
      p.muted.effects name = Effect.unwarned (p.effects name) := by
  have call : p.muted.call name = Effect.unwarned (p.call name) :=
    congrArg (_ :: ·) (actions_unwarned 0 name p.actions).symm
  obtain ⟨actions, drawn⟩ := p
  cases drawn with
  | error stop =>
    refine ⟨notesOf_unwarned actions, ?_⟩
    rw [Pull.effects, call, Pull.effects, unwarned_append]
    rfl
  | ok item =>
    have noted : Note.unwarned [item.note] = [item.note] := by cases item <;> rfl
    have last : Effect.unwarned [.noted 0 name item.note] = [.noted 0 name item.note] := by
      cases item <;> rfl
    constructor
    · simp only [Pull.notes, Pull.muted, notes_unwarned_append, noted, notesOf_unwarned]
    · rw [Pull.effects, call, Pull.effects, unwarned_append]
      exact congrArg (_ ++ ·) last.symm

theorem drain_muted (s : Source ρ) (g : Progress ρ) :
    s.muted.drain seconds g.muted =
      ⟨(s.drain seconds g).progress.muted, (s.drain seconds g).stop,
        Effect.unwarned (s.drain seconds g).effects⟩ := by
  simp only [Source.drain, Source.muted]
  -- induction on the pulls, over whatever the stations have been through
  generalize s.pulls = ps
  induction ps generalizing g with
  | nil => rfl
  | cons p ps ih =>
    obtain ⟨notes, effects⟩ := pull_unwarned s.name p
    have source : g.muted.source.noteAll p.muted.notes = (g.source.noteAll p.notes).muted := by
      rw [notes, noteAll_muted]
      rfl
    cases drawn : p.drawn with
    | error stop =>
      have drawn' : p.muted.drawn = .error stop := drawn
      simp only [List.map_cons, drain, drawn, drawn', source, effects]
      rfl
    | ok item =>
      have drawn' : p.muted.drawn = .ok item := drawn
      have entered := enter_muted seconds g.stations item
      have later := ih ⟨g.source.noteAll p.notes, (item.enter seconds g.stations).stations⟩
      simp only [List.map_cons, drain, drawn, drawn', source, effects, unwarned_append]
      simp only [Progress.muted] at later entered ⊢
      rw [entered]
      simp only [later]

omit [Record ρ] in
theorem publish_muted (staged : List String) (stations : List (Station ρ)) :
    publish staged (stations.map Station.muted) =
      (publish staged stations).map fun p =>
        ⟨p.stations.map Station.muted, p.sink, p.reply, Effect.unwarned p.effects⟩ := by
  induction stations with
  | nil => rfl
  | cons s rest ih =>
    obtain ⟨place, step, received, status⟩ := s
    cases step with
    | bulk sink =>
      have ran := actions_unwarned place sink.name (sink.publish staged).actions
      simp only [List.map_cons, publish, Station.muted, Step.muted, BulkSink.muted,
        Publication.muted, Option.map_some, noteAll_muted, notesOf_unwarned, ← ran]
      rfl
    | record role step =>
      simp only [List.map_cons, publish, Station.muted, Step.muted]
      rw [show publish staged (rest.map Station.muted) = _ from ih]
      cases publish staged rest <;> rfl

omit [Record ρ] in
theorem runBulkSink_muted (runId : String) (staged : List String) (g : Progress ρ) :
    runBulkSink runId staged g.muted =
      ⟨(runBulkSink runId staged g).progress.muted, (runBulkSink runId staged g).result,
        Effect.unwarned (runBulkSink runId staged g).effects⟩ := by
  unfold runBulkSink
  have published := publish_muted staged g.stations
  rw [show g.muted.stations = g.stations.map Station.muted from rfl, published]
  cases publish staged g.stations <;> rfl

/-- A run of components that do not warn is the run of the components, without the warnings. -/
theorem run_muted (s : Source ρ) (runId : String) (g : Progress ρ) :
    s.muted.run runId seconds g.muted =
      ⟨(s.run runId seconds g).progress.muted, (s.run runId seconds g).result,
        Effect.unwarned (s.run runId seconds g).effects⟩ := by
  unfold Source.run
  rw [drain_muted]
  cases stop : (s.drain seconds g).stop with
  | exhausted => simp only [stop, runBulkSink_muted, unwarned_append, stagedIn_unwarned]
  | failed e =>
    simp only [stop]
    rfl
  | panicked p => simp only [stop]

theorem drain_of_pulls {s t : Source ρ} (name : t.name = s.name)
    (pulls : ∀ n, t.pull n = s.pull n) (g : Progress ρ) :
    t.drain seconds g = s.drain seconds g := by
  have stops := source_stopsAfter s seconds g
  have stops' : t.StopsAfter s.items.length (s.drain seconds g).stop := by
    refine ⟨fun n less => ?_, ?_⟩
    · rw [pulls]
      exact stops.1 n less
    · rw [pulls]
      exact stops.2
  obtain ⟨m, reached, drained⟩ := Source.reaches_end stops seconds g
  obtain ⟨m', reached', drained'⟩ := Source.reaches_end stops' seconds g
  have same : m' = m := reached'.unique (reached.agree name fun n _ => pulls n)
  rw [drained', same, name, pulls, ← drained]

theorem run_of_pulls {s t : Source ρ} (name : t.name = s.name) (pulls : ∀ n, t.pull n = s.pull n)
    (runId : String) (g : Progress ρ) :
    t.run runId seconds g = s.run runId seconds g := by
  unfold Source.run
  rw [drain_of_pulls seconds name pulls, name]

end Running

end Intake
