import Intake.Pipeline.Basic
import Intake.Proofs.Alone
import Intake.Proofs.Lockstep
import Intake.Report
import Intake.Status.Summary

/-!
Failing and panicking are the same to everybody but the reader. A step that panics where another
fails leaves the same counters, warnings and keys; what differs is the text of the failures that
were noted at those calls, and so the texts in what is logged and reported about them.
-/
namespace Intake

variable {ρ : Type}

/-- The same failure in other words. -/
def Failure.Reworded (f g : Failure) : Prop := g.name = f.name ∧ g.timestamp = f.timestamp

structure Snapshot.Reworded (a b : Snapshot) : Prop where
  same : b = { a with failures := b.failures }
  failures : List.Forall₂ Failure.Reworded a.failures b.failures

structure Report.Reworded (r r' : Report) : Prop where
  same : r' = { r with steps := r'.steps }
  steps : List.Forall₂ Snapshot.Reworded r.steps r'.steps

inductive Effect.Reworded : Effect → Effect → Prop
  | same (e : Effect) : Reworded e e
  | noted (place : Nat) (step : String) {f g : Failure} (words : f.Reworded g) :
    Reworded (.noted place step (.failed f)) (.noted place step (.failed g))
  | reported {r r' : Report} (words : r.Reworded r') : Reworded (.reported r) (.reported r')

section Reading

variable {steps steps' : List Snapshot} (words : List.Forall₂ Snapshot.Reworded steps steps')

include words

theorem map_reworded {β : Type} (view : Snapshot → β)
    (blind : ∀ a failures, view { a with failures := failures } = view a) :
    steps'.map view = steps.map view := by
  induction words with
  | nil => rfl
  | cons first _ ih => rw [List.map_cons, List.map_cons, ih, first.same, blind]

theorem totals_reworded : (Summary.mk steps').totals = (Summary.mk steps).totals := by
  have counts := map_reworded words (·.counts) fun _ _ => rfl
  have folded : ∀ list : List Snapshot,
      (Summary.mk list).totals = (list.map (·.counts)).foldl (· + ·) .zero := by
    intro list
    rw [List.foldl_map]
    rfl
  rw [folded, folded, counts]

theorem render_reworded : (Summary.mk steps').render = (Summary.mk steps).render := by
  have lines := map_reworded words Summary.line fun _ _ => rfl
  simp only [Summary.render, lines, totals_reworded words]

end Reading

namespace Status

/-- Statuses that are the same but for their failures, which are related one by one. -/
structure SameBut (P : Failure → Failure → Prop) (a b : Status) : Prop where
  same : b = { a with failures := b.failures }
  failures : List.Forall₂ P a.failures b.failures

namespace SameBut

variable {P Q : Failure → Failure → Prop} {a b : Status}

theorem mono (h : a.SameBut P b) (weaker : ∀ f g, P f g → Q f g) : a.SameBut Q b :=
  ⟨h.same, h.failures.imp weaker⟩

theorem failed (h : a.SameBut P b) {f g : Failure} (related : P f g) :
    (a.note (.failed f)).SameBut P (b.note (.failed g)) := by
  refine ⟨?_, List.rel_append h.failures (.cons related .nil)⟩
  rw [h.same]
  rfl

theorem note (h : a.SameBut P b) (refl : ∀ f, P f f) (n : Note) :
    (a.note n).SameBut P (b.note n) := by
  cases n with
  | failed f => exact h.failed (refl f)
  | scanned key =>
    refine ⟨?_, h.failures⟩
    rw [h.same]
    rfl
  | filtered key reason =>
    refine ⟨?_, h.failures⟩
    rw [h.same]
    rfl
  | warning key message =>
    refine ⟨?_, h.failures⟩
    rw [h.same]
    rfl

theorem noteAll (h : a.SameBut P b) (refl : ∀ f, P f f) (ns : List Note) :
    (a.noteAll ns).SameBut P (b.noteAll ns) := by
  induction ns generalizing a b with
  | nil => exact h
  | cons n ns ih => exact ih (h.note refl n)

theorem snapshot (h : a.SameBut P b) (reworded : ∀ f g, P f g → f.Reworded g) :
    a.snapshot.Reworded b.snapshot := by
  refine ⟨?_, h.failures.imp reworded⟩
  rw [h.same]
  rfl

end SameBut

end Status

def Outcome.Swapped : Outcome ρ → Outcome ρ → Prop
  | .failed _, .panicked _ => True
  | .panicked _, .failed _ => True
  | _, _ => False

/-- The steps do the same with every record, except that one may fail where the other panics. -/
structure RecordStep.Akin (s t : RecordStep ρ) : Prop where
  name : t.name = s.name
  onClose : t.onClose = s.onClose
  actions : ∀ earlier r, (t.react earlier r).actions = (s.react earlier r).actions
  outcome : ∀ earlier r, (t.react earlier r).outcome = (s.react earlier r).outcome ∨
    (s.react earlier r).outcome.Swapped (t.react earlier r).outcome

inductive Step.Akin : Step ρ → Step ρ → Prop
  | record (role : RecordRole) {s t : RecordStep ρ} (akin : s.Akin t) :
    Akin (.record role s) (.record role t)
  | bulk (sink : BulkSink) : Akin (.bulk sink) (.bulk sink)

structure Pipeline.Akin (p q : Pipeline ρ) : Prop where
  source : q.source = p.source
  steps : List.Forall₂ Step.Akin p.steps q.steps

theorem Step.Akin.role {s t : Step ρ} (akin : s.Akin t) : t.role = s.role := by
  cases akin <;> rfl

theorem Step.Akin.name {s t : Step ρ} (akin : s.Akin t) : t.name = s.name := by
  cases akin with
  | record role akin => exact akin.name
  | bulk sink => rfl

theorem Step.Akin.onClose {s t : Step ρ} (akin : s.Akin t) : t.onClose = s.onClose := by
  cases akin with
  | record role akin => exact akin.onClose
  | bulk sink => rfl

/-- The failures that two steps have noted at a record where one has failed and the other one has
panicked. -/
def Exchanged [Record ρ] (seconds : Float) (s t : Step ρ) (received : List ρ) (f g : Failure) :
    Prop :=
  ∃ role a b earlier r, s = .record role a ∧ t = .record role b ∧ earlier ++ [r] <+: received ∧
    (a.react earlier r).outcome.Swapped (b.react earlier r).outcome ∧
    (a.react earlier r).outcome.failure? seconds (Record.key r) = some f ∧
    (b.react earlier r).outcome.failure? seconds (Record.key r) = some g

structure Station.Akin [Record ρ] (seconds : Float) (s t : Station ρ) : Prop where
  place : t.place = s.place
  step : s.step.Akin t.step
  received : t.received = s.received
  status : s.status.SameBut
    (fun f g => g = f ∨ Exchanged seconds s.step t.step s.received f g) t.status

theorem Station.Akin.closing [Record ρ] {seconds : Float} {s t : Station ρ}
    (akin : s.Akin seconds t) : (t.component, t.step.onClose) = (s.component, s.step.onClose) := by
  simp only [Station.component, akin.place, akin.step.role, akin.step.name, akin.step.onClose]

theorem Outcome.Swapped.next? {a b : Outcome ρ} (swapped : a.Swapped b) :
    a.next? = none ∧ b.next? = none := by
  cases a <;> cases b <;> first | exact ⟨rfl, rfl⟩ | cases swapped

theorem Outcome.Swapped.notes {a b : Outcome ρ} (swapped : a.Swapped b) (seconds : Float)
    (key : String) :
    ∃ f g, a.note seconds key = .failed f ∧ b.note seconds key = .failed g ∧ f.Reworded g ∧
      a.failure? seconds key = some f ∧ b.failure? seconds key = some g := by
  cases a <;> cases b <;>
    first
    | exact ⟨_, _, note_failure rfl, note_failure rfl, ⟨rfl, rfl⟩, rfl, rfl⟩
    | cases swapped

section Running

variable [Record ρ] {seconds : Float}

theorem Exchanged.later {s t : Step ρ} {received : List ρ} {f g : Failure} (r : ρ)
    (h : Exchanged seconds s t received f g) : Exchanged seconds s t (received ++ [r]) f g := by
  obtain ⟨role, a, b, earlier, r', left, right, before, rest⟩ := h
  exact ⟨role, a, b, earlier, r', left, right, before.trans (List.prefix_append _ _), rest⟩

theorem Exchanged.reworded {s t : Step ρ} {received : List ρ} {f g : Failure}
    (h : Exchanged seconds s t received f g) : f.Reworded g := by
  obtain ⟨role, a, b, earlier, r, _, _, _, swapped, left, right⟩ := h
  obtain ⟨f', g', _, _, words, left', right'⟩ := swapped.notes seconds (Record.key r)
  rw [left, Option.some.injEq] at left'
  rw [right, Option.some.injEq] at right'
  exact left' ▸ right' ▸ words

theorem akin_process {s t : Station ρ} (akin : s.Akin seconds t) (r : ρ) :
    (s.process seconds r).station.Akin seconds (t.process seconds r).station ∧
      (s.process seconds r).next = (t.process seconds r).next ∧
      List.Forall₂ Effect.Reworded (s.process seconds r).effects
        (t.process seconds r).effects := by
  obtain ⟨place', step', received', status'⟩ := s
  obtain ⟨place, step, received, status⟩ := t
  obtain ⟨samePlace, akinSteps, sameReceived, statuses⟩ := akin
  simp only at samePlace akinSteps sameReceived statuses
  subst samePlace sameReceived
  cases akinSteps with
  | bulk sink => exact ⟨⟨rfl, .bulk sink, rfl, statuses⟩, rfl, .nil⟩
  | @record role a b akin =>
    have actions := akin.actions received r
    have warned := (statuses.noteAll (fun f => .inl rfl)
      (notesOf (a.react received r).actions)).mono fun f g => Or.imp_right (Exchanged.later r)
    -- what was noted before the outcome is the same; only the last note can be in other words
    rcases akin.outcome received r with same | swapped
    · have noted := warned.note (fun f => .inl rfl)
        ((a.react received r).outcome.note seconds (Record.key r))
      simp only [Station.process, actions, same, akin.name, Response.call]
      refine ⟨⟨rfl, .record role akin, rfl, ?_⟩, trivial, ?_⟩
      · simp only [Status.noteAll_append]
        exact noted
      · exact List.forall₂_same.mpr fun e _ => Effect.Reworded.same e
    · obtain ⟨f, g, first, second, words, entry, entry'⟩ := swapped.notes seconds (Record.key r)
      have noted := warned.failed (.inr ⟨role, a, b, received, r, rfl, rfl, List.prefix_rfl,
        swapped, entry, entry'⟩)
      simp only [Station.process, actions, first, second, akin.name, Response.call,
        swapped.next?.1, swapped.next?.2]
      refine ⟨⟨rfl, .record role akin, rfl, ?_⟩, trivial, ?_⟩
      · simp only [Status.noteAll_append]
        exact noted
      · exact List.rel_append (List.forall₂_same.mpr fun e _ => Effect.Reworded.same e)
          (.cons (.noted _ _ words) .nil)

omit [Record ρ] in
theorem forall₂_mapIdx {α β : Type} {R : α → α → Prop} {S : β → β → Prop} (f : Nat → α → β)
    (related : ∀ i x y, R x y → S (f i x) (f i y)) {xs ys : List α}
    (pairs : List.Forall₂ R xs ys) : List.Forall₂ S (xs.mapIdx f) (ys.mapIdx f) := by
  induction pairs generalizing f with
  | nil => exact .nil
  | cons first _ ih =>
    rw [List.mapIdx_cons, List.mapIdx_cons]
    exact .cons (related 0 _ _ first) (ih _ fun i x y pair => related (i + 1) x y pair)

theorem startAll_akin (seconds : Float) (startedAt : Instant) {steps steps' : List (Step ρ)}
    (akin : List.Forall₂ Step.Akin steps steps') :
    List.Forall₂ (Station.Akin seconds) (Station.startAll startedAt steps)
      (Station.startAll startedAt steps') := by
  refine forall₂_mapIdx _ (fun i s t pair => ?_) akin
  refine ⟨rfl, pair, rfl, ?_, .nil⟩
  simp only [Station.start, pair.name, pair.role]

theorem akin_lockstep (seconds : Float) :
    Lockstep (ρ := ρ) seconds (Station.Akin seconds) Effect.Reworded where
  same := .same
  staged := by
    rintro e f (_ | _ | _) <;> rfl
  process := fun r akin => akin_process akin r
  record := by
    intro s t role step akin kind
    have steps := akin.step
    rw [kind] at steps
    generalize t.step = step' at steps ⊢
    cases steps with
    | record _ _ => exact ⟨role, _, rfl⟩
  bulk := by
    intro s t sink akin kind
    have steps := akin.step
    rw [kind] at steps
    have kind' : t.step = .bulk sink := by
      generalize t.step = step' at steps ⊢
      cases steps
      rfl
    refine ⟨sink, kind', rfl, rfl, akin.place, fun notes => ?_⟩
    exact ⟨akin.place, akin.step, akin.received, akin.status.noteAll (fun f => .inl rfl) notes⟩

end Running

end Intake
