import Intake.Run.Basic
import Mathlib.Data.List.Forall2

/-!
Two pipelines side by side. If the stations of one are related to those of the other, and taking a
record keeps them related, then the pipelines stay in step through the whole run: the same pulls,
the same end, and effects that are related one by one.
-/
namespace Intake

variable {ρ : Type}

/-- Stations that are related stay so whatever record they take, and when they publish. -/
structure Lockstep [Record ρ] (seconds : Float) (R : Station ρ → Station ρ → Prop)
    (E : Effect → Effect → Prop) : Prop where
  same : ∀ e, E e e
  staged : ∀ {e f}, E e f → e.stagedKey? = f.stagedKey?
  process : ∀ {s t} r, R s t →
    R (s.process seconds r).station (t.process seconds r).station ∧
      (s.process seconds r).next = (t.process seconds r).next ∧
      List.Forall₂ E (s.process seconds r).effects (t.process seconds r).effects
  record : ∀ {s t role step}, R s t → s.step = .record role step →
    ∃ role' step', t.step = .record role' step'
  bulk : ∀ {s t sink}, R s t → s.step = .bulk sink →
    ∃ sink', t.step = .bulk sink' ∧ sink'.name = sink.name ∧ sink'.publish = sink.publish ∧
      t.place = s.place ∧
      ∀ notes, R { s with status := s.status.noteAll notes }
        { t with status := t.status.noteAll notes }

namespace Lockstep

variable [Record ρ] {seconds : Float} {R : Station ρ → Station ρ → Prop}
  {E : Effect → Effect → Prop} (h : Lockstep seconds R E)

include h

theorem refl (effects : List Effect) : List.Forall₂ E effects effects :=
  List.forall₂_same.mpr fun e _ => h.same e

theorem route {stations stations' : List (Station ρ)} (related : List.Forall₂ R stations stations')
    (r : ρ) :
    List.Forall₂ R (route seconds stations r).stations (route seconds stations' r).stations ∧
      List.Forall₂ E (route seconds stations r).effects (route seconds stations' r).effects := by
  induction related generalizing r with
  | nil => exact ⟨.nil, .nil⟩
  | @cons s t rest rest' first others ih =>
    obtain ⟨after, next, effects⟩ := h.process r first
    cases passed : (s.process seconds r).next with
    | none =>
      simp only [Intake.route, passed, next ▸ passed]
      exact ⟨.cons after others, effects⟩
    | some r' =>
      simp only [Intake.route, passed, next ▸ passed]
      exact ⟨.cons after (ih r').1, List.rel_append effects (ih r').2⟩

theorem enter {stations stations' : List (Station ρ)} (related : List.Forall₂ R stations stations')
    (item : Item ρ) :
    List.Forall₂ R (item.enter seconds stations).stations (item.enter seconds stations').stations ∧
      List.Forall₂ E (item.enter seconds stations).effects
        (item.enter seconds stations').effects := by
  cases item with
  | record r => exact h.route related r
  | filtered key reason => exact ⟨related, .nil⟩
  | failed f => exact ⟨related, .nil⟩

theorem drain (name : String) (rest : Stop) (ps : List (Pull ρ)) {g g' : Progress ρ}
    (source : g.source = g'.source) (related : List.Forall₂ R g.stations g'.stations) :
    let d := drain seconds name rest ps g
    let d' := Intake.drain seconds name rest ps g'
    d.progress.source = d'.progress.source ∧ d.stop = d'.stop ∧
      List.Forall₂ R d.progress.stations d'.progress.stations ∧
      List.Forall₂ E d.effects d'.effects := by
  induction ps generalizing g g' with
  | nil => exact ⟨source, rfl, related, h.refl _⟩
  | cons p ps ih =>
    cases drawn : p.drawn with
    | error stop =>
      simp only [Intake.drain, drawn]
      exact ⟨by rw [source], trivial, related, h.refl _⟩
    | ok item =>
      simp only [Intake.drain, drawn]
      obtain ⟨entered, effects⟩ := h.enter related item
      obtain ⟨source', stop', stations', effects'⟩ :=
        @ih ⟨g.source.noteAll p.notes, (item.enter seconds g.stations).stations⟩
          ⟨g'.source.noteAll p.notes, (item.enter seconds g'.stations).stations⟩
          (by rw [source]) entered
      have routed := List.rel_append effects effects'
      exact ⟨source', stop', stations', List.rel_append (h.refl _) routed⟩

theorem publish (staged : List String) {stations stations' : List (Station ρ)}
    (related : List.Forall₂ R stations stations') :
    (Intake.publish staged stations = none ∧ Intake.publish staged stations' = none) ∨
      ∃ p p', Intake.publish staged stations = some p ∧
        Intake.publish staged stations' = some p' ∧ List.Forall₂ R p.stations p'.stations ∧
        p.sink = p'.sink ∧ p.reply = p'.reply ∧ p.effects = p'.effects := by
  induction related with
  | nil => exact .inl ⟨rfl, rfl⟩
  | @cons s t rest rest' first others ih =>
    cases kind : s.step with
    | bulk sink =>
      obtain ⟨sink', kind', name, publishes, place, noted⟩ := h.bulk first kind
      refine .inr ⟨_, _, by simp only [Intake.publish, kind]; rfl,
        by simp only [Intake.publish, kind']; rfl, ?_, name.symm, by rw [publishes], ?_⟩
      · rw [publishes]
        exact .cons (by simpa [kind, kind'] using noted _) others
      · rw [publishes, name, place]
    | record role step =>
      obtain ⟨role', step', kind'⟩ := h.record first kind
      simp only [Intake.publish, kind, kind']
      rcases ih with ⟨no, no'⟩ | ⟨p, p', yes, yes', related, sink, reply, effects⟩
      · exact .inl (by simp [no, no'])
      · refine .inr ⟨{ p with stations := s :: p.stations },
          { p' with stations := t :: p'.stations }, by simp [yes], by simp [yes'],
          .cons first related, sink, reply, effects⟩

theorem stagedIn_eq {effects effects' : List Effect} (related : List.Forall₂ E effects effects') :
    stagedIn effects = stagedIn effects' := by
  induction related with
  | nil => rfl
  | cons first _ ih =>
    simp only [stagedIn, List.filterMap_cons, h.staged first] at ih ⊢
    rw [ih]

theorem runBulkSink (runId : String) (staged : List String) {g g' : Progress ρ}
    (source : g.source = g'.source) (related : List.Forall₂ R g.stations g'.stations) :
    let a := runBulkSink runId staged g
    let b := Intake.runBulkSink runId staged g'
    a.result = b.result ∧ a.progress.source = b.progress.source ∧
      List.Forall₂ R a.progress.stations b.progress.stations ∧
      List.Forall₂ E a.effects b.effects := by
  rcases h.publish staged related with
    ⟨no, no'⟩ | ⟨p, p', yes, yes', stations, sink, reply, effects⟩
  · simp only [Intake.runBulkSink, no, no']
    exact ⟨trivial, source, related, h.refl _⟩
  · simp only [Intake.runBulkSink, yes, yes', sink, reply, effects]
    exact ⟨trivial, source, stations, h.refl _⟩

/-- Everything that two runs in step have in common. -/
theorem run (s s' : Source ρ) (name : s.name = s'.name) (pulls : s.pulls = s'.pulls)
    (rest : s.rest = s'.rest) (runId : String) (g g' : Progress ρ) (source : g.source = g'.source)
    (related : List.Forall₂ R g.stations g'.stations) :
    let a := s.run runId seconds g
    let b := s'.run runId seconds g'
    a.result = b.result ∧ a.progress.source = b.progress.source ∧
      List.Forall₂ R a.progress.stations b.progress.stations ∧
      List.Forall₂ E a.effects b.effects := by
  have drained := h.drain s.name s.rest s.pulls source related
  have other : s'.drain seconds g' = Intake.drain seconds s.name s.rest s.pulls g' := by
    rw [Source.drain, name, pulls, rest]
  simp only [← other] at drained
  obtain ⟨source', stop, stations, effects⟩ := drained
  have same : (s.drain seconds g).stop = (s'.drain seconds g').stop := stop
  cases stopped : (s'.drain seconds g').stop with
  | exhausted =>
    simp only [Source.run, same, stopped]
    -- related effects stage the same keys, so the bulk sinks are asked for the same
    have keys : stagedIn (s.drain seconds g).effects = stagedIn (s'.drain seconds g').effects :=
      h.stagedIn_eq effects
    rw [keys]
    obtain ⟨result, source'', stations', effects'⟩ := h.runBulkSink runId _ source' stations
    exact ⟨result, source'', stations', List.rel_append effects effects'⟩
  | failed e =>
    simp only [Source.run, same, stopped, name]
    exact ⟨trivial, source', stations, effects⟩
  | panicked p =>
    simp only [Source.run, same, stopped]
    exact ⟨trivial, source', stations, effects⟩

end Lockstep

end Intake
