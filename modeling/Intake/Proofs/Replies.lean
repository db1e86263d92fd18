import Intake.Proofs.Calls
import Intake.Proofs.Lockstep

/-!
How the components close is of no consequence. If some of them were to close in another way, every
call would give back the same and leave the workflow in the same state, and the trace would differ
in the replies to the closes alone.
-/
namespace Intake

variable {ρ : Type}

def Step.closingWith (reply : Reply) : Step ρ → Step ρ
  | .record role s => .record role { s with onClose := reply }
  | .bulk s => .bulk { s with onClose := reply }

namespace Station

def closingWith (f : Component → Reply) (s : Station ρ) : Station ρ :=
  { s with step := s.step.closingWith (f s.component) }

@[simp] theorem closingWith_status (f : Component → Reply) (s : Station ρ) :
    (s.closingWith f).status = s.status := rfl

@[simp] theorem closingWith_component (f : Component → Reply) (s : Station ρ) :
    (s.closingWith f).component = s.component := by
  cases kind : s.step <;>
    simp [closingWith, component, Step.closingWith, Step.role, Step.name, kind]

@[simp] theorem closingWith_onClose (f : Component → Reply) (s : Station ρ) :
    (s.closingWith f).step.onClose = f s.component := by
  cases kind : s.step <;> simp [closingWith, Step.closingWith, Step.onClose, kind]

end Station

def Effect.closingWith (f : Component → Reply) : Effect → Effect
  | .closed component _ => .closed component (f component)
  | e => e

theorem map_closingWith (f : Component → Reply) (trace : List Effect)
    (none : closesIn trace = []) : trace.map (Effect.closingWith f) = trace := by
  have fixed : ∀ e ∈ trace, e.closingWith f = e := by
    intro e member
    have silent := List.filterMap_eq_nil_iff.mp none e member
    cases e <;> first | rfl | cases silent
  rw [List.map_congr_left fixed, List.map_id']

def Progress.closingWith (f : Component → Reply) (g : Progress ρ) : Progress ρ :=
  { g with stations := g.stations.map (Station.closingWith f) }

/-- A step does with a record what it does, however it closes. -/
theorem closingWith_lockstep [Record ρ] (f : Component → Reply) (seconds : Float) :
    Lockstep (ρ := ρ) seconds (fun s t => t = s.closingWith f) Eq where
  same := fun _ => rfl
  staged := fun same => by rw [same]
  process := by
    rintro s _ r rfl
    cases kind : s.step <;>
      simp [Station.process, Station.closingWith, Step.closingWith, kind, Station.component,
        Step.role, Step.name]
  record := by
    rintro s _ role step rfl kind
    exact ⟨role, _, by simp only [Station.closingWith, Step.closingWith, kind]; rfl⟩
  bulk := by
    rintro s _ sink rfl kind
    refine ⟨{ sink with onClose := f s.component }, ?_, rfl, rfl, rfl, fun notes => rfl⟩
    simp only [Station.closingWith, Step.closingWith, kind]

attribute [ext] Progress Ran

theorem eq_map_of_forall₂ {α β : Type} (f : α → β) {xs : List α} {ys : List β}
    (related : List.Forall₂ (fun x y => y = f x) xs ys) : ys = xs.map f := by
  induction related with
  | nil => rfl
  | cons first _ ih => rw [first, ih, List.map_cons]

theorem run_closingWith [Record ρ] (f : Component → Reply) (reply : Reply) (s : Source ρ)
    (runId : String) (seconds : Float) (g : Progress ρ) :
    let ran := s.run runId seconds g
    Source.run { s with onClose := reply } runId seconds (g.closingWith f) =
      ⟨ran.progress.closingWith f, ran.result, ran.effects⟩ := by
  intro ran
  have stations : List.Forall₂ (fun s t => t = Station.closingWith f s) g.stations
      (g.closingWith f).stations :=
    List.forall₂_map_right_iff.mpr (List.forall₂_same.mpr fun _ _ => rfl)
  obtain ⟨result, source, after, effects⟩ := (closingWith_lockstep f seconds).run s
    { s with onClose := reply } rfl rfl rfl runId g (g.closingWith f) rfl stations
  rw [List.forall₂_eq_eq_eq] at effects
  have progress : _ = ran.progress.closingWith f :=
    Progress.ext source.symm (eq_map_of_forall₂ _ after)
  exact Ran.ext progress result.symm effects.symm

namespace Workflow

/-- The workflow in which every component closes as it is told to. -/
def closingWith (f : Component → Reply) (w : Workflow ρ) : Workflow ρ :=
  { w with
    catalog := { w.catalog with onClose := f .catalog }
    source := { w.source with onClose := f (.source w.source.name) }
    progress := w.progress.closingWith f }

variable (f : Component → Reply) (now : Instant) (w : Workflow ρ)

theorem summary_closingWith : (w.closingWith f).summary = w.summary := by
  simp [summary, closingWith, Progress.closingWith, Progress.statuses]

theorem announce_closingWith : (w.closingWith f).announce now = w.announce now := by
  simp only [announce, emit, sendReport, report?, summaryPayload, runField, summary_closingWith]
  rfl

theorem closings_closingWith :
    (w.closingWith f).closings = w.closings.map fun c => (c.1, f c.1) := by
  simp [closings, closingWith, Progress.closingWith]

theorem stop_closingWith :
    (w.closingWith f).stop =
      ⟨w.stop.workflow.closingWith f, (), w.stop.effects.map (Effect.closingWith f)⟩ := by
  cases stopped : w.stopped with
  | true => simp [stop, stopped, closingWith]
  | false =>
    have stopped' : (w.closingWith f).stopped = false := stopped
    have timer : (w.closingWith f).stopTimer.effects = w.stopTimer.effects := rfl
    simp only [stop_unstopped _ stopped, stop_unstopped _ stopped', closings_closingWith, timer,
      closes, List.map_append, map_closingWith f _ (stopTimer_closes w), List.map_map]
    rfl

section Executing

variable [Record ρ]

theorem run_closingWith :
    (w.closingWith f).run now =
      ⟨(w.run now).workflow.closingWith f, (w.run now).result, (w.run now).effects⟩ := by
  have ran := Intake.run_closingWith f (f (.source w.source.name)) w.source w.runId.text
    now.toSeconds w.progress
  cases started : w.timer.start with
  | error e => simp [run, closingWith, started]
  | ok timer => simp only [run, closingWith, started, ran]; rfl

theorem settled_closingWith : (w.closingWith f).settled now = (w.settled now).closingWith f := by
  simp only [settled, run_closingWith]
  congr 1
  cases (w.run now).result with
  | ok _ => simp only [verdict, summary_closingWith]; rfl
  | error e => rfl

theorem settling_closingWith : (w.closingWith f).settling now = w.settling now := by
  simp only [settling, run_closingWith]
  cases (w.run now).result <;> rfl

theorem settling_closes : closesIn (w.settling now) = [] := by
  have failed := (failureEntries_inner (w.run now).workflow (w.run now).result).closes
  have ran : closesIn (w.run now).effects = [] := by
    unfold run
    split
    · rfl
    · exact (run_inner w.source _ _ w.progress).closes
  rw [settling, closesIn_append, ran, failed, List.append_nil]

theorem execute_closingWith :
    (w.closingWith f).execute now =
      ⟨(w.execute now).workflow.closingWith f, (w.execute now).result,
        (w.execute now).effects.map (Effect.closingWith f)⟩ := by
  by_cases executed : w.executed = true
  · simp [execute, executed, closingWith]
  by_cases stopped : w.stopped = true
  · simp [execute, executed, stopped, closingWith]
  have executed' : (w.closingWith f).executed = false := by simpa [closingWith] using executed
  have stopped' : (w.closingWith f).stopped = false := by simpa [closingWith] using stopped
  rw [execute_eq now executed' stopped', execute_eq now (by simpa using executed)
    (by simpa using stopped)]
  simp only [settled_closingWith, settling_closingWith, announce_closingWith, stop_closingWith]
  -- up to here nothing is closed, so nothing depends on how components close
  cases told : ((w.settled now).announce now).result with
  | error i =>
    simp only [List.map_append, map_closingWith f _ (settling_closes now w),
      map_closingWith f _ (announce_closes now _)]
  | ok _ =>
    simp only [List.map_append, map_closingWith f _ (settling_closes now w),
      map_closingWith f _ (announce_closes now _), run_closingWith]
    rfl

theorem perform_closingWith (c : Call) :
    (w.closingWith f).perform c =
      ⟨(w.perform c).workflow.closingWith f, (w.perform c).result,
        (w.perform c).effects.map (Effect.closingWith f)⟩ := by
  cases c with
  | execute now => simp only [perform, execute_closingWith]
  | stop => simp only [perform, stop_closingWith]

theorem performAll_closingWith (calls : List Call) :
    (w.closingWith f).performAll calls =
      ⟨(w.performAll calls).workflow.closingWith f, (w.performAll calls).result,
        (w.performAll calls).effects.map (Effect.closingWith f)⟩ := by
  induction calls generalizing w with
  | nil => rfl
  | cons c rest ih => simp only [performAll, perform_closingWith, ih, List.map_append]

end Executing

end Workflow

end Intake
