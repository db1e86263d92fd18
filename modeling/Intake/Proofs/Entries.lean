import Intake.Proofs.Replay
import Intake.Status.Check

/-!
Counters and entries stay side by side. Every note that adds an entry moves the counter beside it,
so the counter is the number of the entries, and whoever asks whether anything has failed gets the
same answer from either.
-/
namespace Intake

structure Counts.AtMost (a b : Counts) : Prop where
  scanned : a.scanned ≤ b.scanned
  filtered : a.filtered ≤ b.filtered
  warnings : a.warnings ≤ b.warnings
  failed : a.failed ≤ b.failed

theorem Counts.AtMost.refl (a : Counts) : a.AtMost a :=
  ⟨Nat.le_refl _, Nat.le_refl _, Nat.le_refl _, Nat.le_refl _⟩

theorem Counts.AtMost.trans {a b c : Counts} (first : a.AtMost b) (second : b.AtMost c) :
    a.AtMost c :=
  ⟨Nat.le_trans first.scanned second.scanned, Nat.le_trans first.filtered second.filtered,
    Nat.le_trans first.warnings second.warnings, Nat.le_trans first.failed second.failed⟩

namespace Status

/-- The status holds the entries of these notes, in their order, with a true counter beside each
list. -/
structure Keeps (s : Status) (ns : List Note) : Prop where
  scanned : s.scanned = ns.countP Note.isScanned
  filtered : s.filtered = s.filteredRecords.length
  warnings : s.warnings = s.warningRecords.length
  failed : s.failed = s.failures.length
  filteredRecords : s.filteredRecords = ns.filterMap Note.filtered?
  warningRecords : s.warningRecords = ns.filterMap Note.warning?
  failures : s.failures = ns.filterMap Note.failure?

theorem start_keeps (name : String) (role : Role) (startedAt : Instant) :
    (start name role startedAt).Keeps [] :=
  ⟨rfl, rfl, rfl, rfl, rfl, rfl, rfl⟩

variable {s : Status} {ns : List Note}

theorem Keeps.note (keeps : s.Keeps ns) (n : Note) : (s.note n).Keeps (ns ++ [n]) := by
  obtain ⟨scanned, filtered, warnings, failed, filteredRecords, warningRecords, failures⟩ := keeps
  cases n <;> constructor <;>
    simp [Status.note, Note.isScanned, Note.filtered?, Note.warning?, Note.failure?,
      List.filterMap_cons, *]

theorem Keeps.noteAll (keeps : s.Keeps ns) (ms : List Note) : (s.noteAll ms).Keeps (ns ++ ms) := by
  induction ms generalizing s ns with
  | nil =>
    rw [List.append_nil]
    exact keeps
  | cons m ms ih =>
    rw [List.append_cons]
    exact ih (keeps.note m)

theorem note_grows (s : Status) (n : Note) : s.counts.AtMost (s.note n).counts := by
  cases n <;> constructor <;> simp [counts, note]

theorem noteAll_grows (s : Status) (ns : List Note) : s.counts.AtMost (s.noteAll ns).counts := by
  induction ns generalizing s with
  | nil => exact .refl _
  | cons n ns ih => exact (s.note_grows n).trans (ih (s.note n))

end Status

theorem Tolerance.evaluate_success (t : Tolerance) (failed processed : Nat) :
    t.evaluate failed processed = .success ↔ failed = 0 := by
  unfold evaluate
  split
  · simp [*]
  · split <;> simp [*]

namespace Summary

/-- All who ask whether anything has failed are told the same: from the counters of the steps, from
the entries, from the totals, by the check, and by the verdict under any tolerance. -/
structure AgreesOnFailures (s : Summary) : Prop where
  entries : s.hasFailures = true ↔ s.failures ≠ []
  totals : s.hasFailures = true ↔ 0 < s.totals.failed
  check : s.hasFailures = true ↔ ∃ mismatch, s.checkNoFailures = .error mismatch
  verdict : ∀ t : Tolerance, s.hasFailures = true ↔ s.state t ≠ .success

variable {s : Summary}

theorem totals_failed (balanced : ∀ step ∈ s.steps, step.counts.failed = step.failures.length) :
    s.totals.failed = s.failures.length := by
  have summed : ∀ (steps : List Snapshot) (sum : Counts),
      (∀ step ∈ steps, step.counts.failed = step.failures.length) →
      (steps.foldl (fun sum step => sum + step.counts) sum).failed =
        sum.failed + (Summary.mk steps).failures.length := by
    intro steps
    induction steps with
    | nil => exact fun _ _ => rfl
    | cons step rest ih =>
      intro sum balanced
      obtain ⟨here, later⟩ := List.forall_mem_cons.mp balanced
      have added : (sum + step.counts).failed = sum.failed + step.failures.length := by
        rw [← here]
        rfl
      rw [List.foldl_cons, ih _ later, added]
      simp [failures, Nat.add_assoc]
  exact (summed s.steps .zero balanced).trans (Nat.zero_add _)

theorem hasFailures_iff (balanced : ∀ step ∈ s.steps, step.counts.failed = step.failures.length) :
    s.hasFailures = true ↔ s.failures ≠ [] := by
  rw [hasFailures, List.any_eq_true]
  constructor
  · rintro ⟨step, member, positive⟩
    rw [decide_eq_true_eq, balanced step member] at positive
    obtain ⟨f, listed⟩ := List.length_pos_iff_exists_mem.mp positive
    have tagged : (step.name, f) ∈ s.failures :=
      List.mem_flatMap.mpr ⟨step, member, List.mem_map_of_mem listed⟩
    exact List.ne_nil_of_mem tagged
  · intro some
    obtain ⟨entry, tagged⟩ := List.exists_mem_of_ne_nil _ some
    obtain ⟨step, member, listed⟩ := List.mem_flatMap.mp tagged
    obtain ⟨f, noted, _⟩ := List.mem_map.mp listed
    refine ⟨step, member, ?_⟩
    rw [decide_eq_true_eq, balanced step member]
    exact List.length_pos_of_mem noted

theorem agrees_on_failures
    (balanced : ∀ step ∈ s.steps, step.counts.failed = step.failures.length) :
    s.AgreesOnFailures := by
  have entries := hasFailures_iff balanced
  have totals : s.hasFailures = true ↔ 0 < s.totals.failed := by
    rw [totals_failed balanced, List.length_pos_iff, entries]
  refine ⟨entries, totals, ?_, fun t => ?_⟩
  · rw [entries, checkNoFailures]
    cases s.failures <;> simp
  · rw [state, ne_eq, Tolerance.evaluate_success, totals, Nat.pos_iff_ne_zero]

end Summary

/-- Throughout this trace every status keeps its entries beside true counters, which never go down,
and all who ask about failures agree. -/
structure KeepsBooks (statuses : List Status) (trace : List Effect) : Prop where
  kept : ∀ before, before <+: trace → ∀ (place : Nat) (s : Status),
    (statusesAfter statuses before)[place]? = some s → s.Keeps (notesAt place before)
  grows : ∀ earlier later, earlier <+: later → later <+: trace → ∀ (place : Nat) (s : Status),
    (statusesAfter statuses earlier)[place]? = some s →
      ∃ t, (statusesAfter statuses later)[place]? = some t ∧ s.counts.AtMost t.counts
  agrees : ∀ before, before <+: trace →
    (Summary.mk ((statusesAfter statuses before).map Status.snapshot)).AgreesOnFailures

theorem keeps_books {statuses : List Status} (started : ∀ s ∈ statuses, s.Keeps [])
    (trace : List Effect) : KeepsBooks statuses trace := by
  have kept : ∀ (before : List Effect) (place : Nat) (s : Status),
      (statusesAfter statuses before)[place]? = some s → s.Keeps (notesAt place before) := by
    intro before place s found
    rw [statusesAfter_getElem?] at found
    obtain ⟨first, at_first, rfl⟩ := Option.map_eq_some_iff.mp found
    exact (started first (List.mem_of_getElem? at_first)).noteAll (notesAt place before)
  refine ⟨fun before _ => kept before, ?_, fun before _ => ?_⟩
  · rintro earlier _ ⟨between, rfl⟩ _ place s found
    refine ⟨s.noteAll (notesAt place between), ?_, s.noteAll_grows _⟩
    rw [statusesAfter_append, statusesAfter_getElem?, found]
    rfl
  · refine Summary.agrees_on_failures fun step member => ?_
    obtain ⟨s, listed, rfl⟩ := List.mem_map.mp member
    obtain ⟨place, found⟩ := List.getElem?_of_mem listed
    exact (kept before place s found).failed

namespace Workflow

variable {ρ : Type}

theorem built_keeps {host : Host} {plan : Plan} {builder : PipelineBuilder ρ} {w : Workflow ρ}
    (built : (build host plan builder).result = .ok w) :
    Placed 1 w.progress.stations ∧ ∀ s ∈ w.progress.statuses, s.Keeps [] := by
  obtain ⟨p, _, _, progress⟩ := built_pipeline built
  rw [progress]
  refine ⟨startAll_placed host.now p.steps, fun s member => ?_⟩
  rcases List.mem_cons.mp member with rfl | station
  · exact Status.start_keeps _ _ _
  · obtain ⟨t, started, rfl⟩ := List.mem_map.mp station
    obtain ⟨_, _, rfl⟩ := List.mem_mapIdx.mp started
    exact Status.start_keeps _ _ _

/-- Whatever is noted, by whomever and in whatever order, counters and entries never drift apart,
neither in a single status nor at any moment of the calls on a built workflow; so whoever asks it
about failures is told the same. -/
theorem performAll_keeps_books [Record ρ] :
    (∀ (name : String) (role : Role) (startedAt : Instant) (ns ms : List Note),
        let s := (Status.start name role startedAt).noteAll ns
        s.Keeps ns ∧ s.counts.AtMost (s.noteAll ms).counts) ∧
      ∀ {host : Host} {plan : Plan} {builder : PipelineBuilder ρ} {w : Workflow ρ},
        (build host plan builder).result = .ok w → ∀ calls : List Call,
          let performed := w.performAll calls
          KeepsBooks w.progress.statuses performed.effects ∧
            performed.workflow.progress.statuses =
              statusesAfter w.progress.statuses performed.effects ∧
            performed.workflow.summary.AgreesOnFailures := by
  refine ⟨fun name role startedAt ns ms => ?_, @fun _ _ _ w built calls => ?_⟩
  · exact ⟨(Status.start_keeps name role startedAt).noteAll ns, Status.noteAll_grows _ ms⟩
  · obtain ⟨placed, started⟩ := built_keeps built
    have books := keeps_books started (performAll w calls).effects
    have statuses := (performAll_replays placed calls).statuses
    refine ⟨books, statuses, ?_⟩
    rw [summary, statuses]
    exact books.agrees _ (List.prefix_refl _)

def meddlingSink : RecordStep String where
  name := "load"
  react := fun _ r =>
    ⟨[.note (.failed (.ofError 0.0 r (.ofMessage "retried"))), .note (.scanned "copy")], .consumed⟩
  onClose := .done

def meddledPipeline : Pipeline String :=
  ⟨.ofItems "crm" [.record "a", .filtered "b" "old", .record "c"] .done,
    [.record .sink meddlingSink,
      .bulk (Scripted.bulkSink "publish" [.note (.failed (.ofText 0.0 "b" "refused"))] .done)]⟩

theorem performAll_keeps_books_meddled :
    let performed := (deployed meddledPipeline).performAll [.execute .epoch, .stop]
    performed.workflow.summary.totals = ⟨6, 1, 0, 3⟩ ∧
      (∃ mismatch, performed.workflow.summary.checkNoFailures = .error mismatch) ∧
      (∀ t : Tolerance, performed.workflow.summary.state t ≠ .success) ∧
      ∃ sink, performed.workflow.progress.statuses[1]? = some sink ∧
        sink.failed = sink.failures.length ∧
        sink.failures = (notesAt 1 performed.effects).filterMap Note.failure? := by
  intro performed
  obtain ⟨books, statuses, agrees⟩ :=
    performAll_keeps_books.2 (deployed_built meddledPipeline) [.execute .epoch, .stop]
  have failing : performed.workflow.summary.hasFailures = true := rfl
  have totals : performed.workflow.summary.totals = ⟨6, 1, 0, 3⟩ := rfl
  refine ⟨totals, agrees.check.mp failing, fun t => (agrees.verdict t).mp failing, ?_⟩
  obtain ⟨sink, found⟩ : ∃ sink, performed.workflow.progress.statuses[1]? = some sink := ⟨_, rfl⟩
  have keeps := books.kept _ (List.prefix_refl _) 1 sink (statuses ▸ found)
  exact ⟨sink, found, keeps.failed, keeps.failures⟩

end Workflow

end Intake
