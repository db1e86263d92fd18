import Intake.Proofs.Agreement
import Intake.Proofs.BulkSinks
import Intake.Proofs.Ledger

/-!
Records are independent. When what a step makes of a record depends on that record alone, a run is
a homomorphism on its items: what it leaves in the ledgers is what each item would have left on its
own, one after the other. So an item can be added, removed or moved, and nothing becomes of the
others that would not have become of them anyway.
-/
namespace Intake

variable {ρ : Type}

/-- What the step makes of a record, and what it notes about it, depends on that record alone. -/
def RecordStep.Memoryless (s : RecordStep ρ) : Prop :=
  ∀ earlier r, (s.react earlier r).outcome = (s.react [] r).outcome ∧
    notesOf (s.react earlier r).actions = notesOf (s.react [] r).actions

/-- Bulk sinks see all the records together, so none of them counts as memoryless. -/
def Step.Memoryless : Step ρ → Prop
  | .record _ s => s.Memoryless
  | .bulk _ => False

theorem script_memoryless [Record ρ] (role : RecordRole) (name : String) (s : Scripted.Script ρ)
    (onClose : Reply) (uncounted : s.calls = []) :
    (Step.record role (s.step name onClose)).Memoryless := by
  intro earlier r
  simp only [Scripted.Script.step, Scripted.Script.act, uncounted, List.getElem?_nil]
  exact ⟨trivial, trivial⟩

section Answering

variable [Record ρ]

def RecordStep.notesOn (seconds : Float) (s : RecordStep ρ) (rs : List ρ) : List Note :=
  rs.flatMap fun r => (s.react [] r).notes seconds (Record.key r)

def RecordStep.passes (s : RecordStep ρ) (rs : List ρ) : List ρ :=
  rs.filterMap fun r => (s.react [] r).outcome.next?

theorem memoryless_notes (seconds : Float) {s : RecordStep ρ} (memoryless : s.Memoryless)
    (earlier rs : List ρ) : s.notes seconds earlier rs = s.notesOn seconds rs := by
  induction rs generalizing earlier with
  | nil => rfl
  | cons r rs ih =>
    obtain ⟨outcome, notes⟩ := memoryless earlier r
    rw [RecordStep.notes_cons, ih, Response.notes, outcome, notes]
    rfl

omit [Record ρ] in
theorem memoryless_passes {s : RecordStep ρ} (memoryless : s.Memoryless) (earlier rs : List ρ) :
    (rs.zip (s.responses earlier rs)).filterMap (fun a => a.2.outcome.next?) = s.passes rs := by
  induction rs generalizing earlier with
  | nil => rfl
  | cons r rs ih =>
    simp only [RecordStep.responses, List.zip_cons_cons, RecordStep.passes, List.filterMap_cons,
      (memoryless earlier r).1, ih]

omit [Record ρ] in
theorem note_undated (seconds seconds' : Float) (key : String) (o : Outcome ρ) :
    (o.note seconds key).undated = (o.note seconds' key).undated := by
  cases o with
  | failed e => rw [Outcome.note, Outcome.note, Failure.ofError_eq, Failure.ofError_eq]; rfl
  | _ => rfl

theorem notesOn_undated (seconds : Float) (s : RecordStep ρ) (rs : List ρ) :
    Ledger.ofNotes (s.notesOn seconds rs) = Ledger.ofNotes (s.notesOn 0.0 rs) := by
  have undated : (s.notesOn seconds rs).map Note.undated =
      (s.notesOn 0.0 rs).map Note.undated := by
    simp only [RecordStep.notesOn, List.map_flatMap]
    refine List.flatMap_congr fun r _ => ?_
    rw [Response.notes, Response.notes, List.map_append, List.map_append, List.map_singleton,
      List.map_singleton, note_undated seconds 0.0]
  rw [← Ledger.ofNotes_undated, undated, Ledger.ofNotes_undated]

def ledgersOf : List (Step ρ) → List ρ → List Ledger
  | [], _ => []
  | .record _ s :: rest, rs => .ofNotes (s.notesOn 0.0 rs) :: ledgersOf rest (s.passes rs)
  | .bulk _ :: rest, rs => .blank :: ledgersOf rest rs

def ledgersAfter (steps : List (Step ρ)) (items : List (Item ρ)) : List Ledger :=
  .ofNotes (items.map Item.note) :: ledgersOf steps (items.filterMap Item.record?)

theorem ledgersOf_length (steps : List (Step ρ)) (rs : List ρ) :
    (ledgersOf steps rs).length = steps.length := by
  induction steps generalizing rs with
  | nil => rfl
  | cons s rest ih => cases s <;> simp [ledgersOf, ih]

theorem ledgersOf_append (steps : List (Step ρ)) (rs ts : List ρ) :
    ledgersOf steps (rs ++ ts) =
      List.zipWith (· ++ ·) (ledgersOf steps rs) (ledgersOf steps ts) := by
  induction steps generalizing rs ts with
  | nil => rfl
  | cons s rest ih =>
    cases s with
    | bulk sink => simp only [ledgersOf, List.zipWith_cons_cons, Ledger.blank_append, ih]
    | record role s =>
      have notes : s.notesOn 0.0 (rs ++ ts) = s.notesOn 0.0 rs ++ s.notesOn 0.0 ts :=
        List.flatMap_append
      have passes : s.passes (rs ++ ts) = s.passes rs ++ s.passes ts := List.filterMap_append
      simp only [ledgersOf, List.zipWith_cons_cons, notes, passes, Ledger.ofNotes_append, ih]

theorem ledgersOf_perm (steps : List (Step ρ)) {rs ts : List ρ} (same : rs.Perm ts) :
    List.Forall₂ Ledger.Shuffled (ledgersOf steps rs) (ledgersOf steps ts) := by
  induction steps generalizing rs ts with
  | nil => exact .nil
  | cons s rest ih =>
    cases s with
    | bulk sink => exact .cons (Ledger.ofNotes_perm (.refl [])) (ih same)
    | record role s =>
      exact .cons (Ledger.ofNotes_perm (same.flatMap_right _)) (ih (same.filterMap _))

theorem ledgersAfter_append (steps : List (Step ρ)) (xs ys : List (Item ρ)) :
    ledgersAfter steps (xs ++ ys) =
      List.zipWith (· ++ ·) (ledgersAfter steps xs) (ledgersAfter steps ys) := by
  simp only [ledgersAfter, List.map_append, List.filterMap_append, Ledger.ofNotes_append,
    ledgersOf_append, List.zipWith_cons_cons]

theorem ledgersAfter_perm (steps : List (Step ρ)) {xs ys : List (Item ρ)} (same : xs.Perm ys) :
    List.Forall₂ Ledger.Shuffled (ledgersAfter steps xs) (ledgersAfter steps ys) :=
  .cons (Ledger.ofNotes_perm (same.map _)) (ledgersOf_perm steps (same.filterMap _))

end Answering

section Running

variable [Record ρ]

theorem sweep_ledgers (seconds : Float) (stations : List (Station ρ)) (rs : List ρ)
    (blank : ∀ s ∈ stations, s.status.ledger = .blank)
    (memoryless : ∀ s ∈ stations, s.step.Memoryless) :
    (sweep seconds stations rs).map (·.status.ledger) =
      ledgersOf (stations.map (·.step)) rs := by
  induction stations generalizing rs with
  | nil => rfl
  | cons s rest ih =>
    obtain ⟨place, step, received, status⟩ := s
    obtain ⟨blankHere, blankLater⟩ := List.forall_mem_cons.mp blank
    obtain ⟨here, later⟩ := List.forall_mem_cons.mp memoryless
    cases step with
    | bulk sink => exact here.elim
    | record role step =>
      rw [sweep, afterAll_record, passedOn_record, memoryless_notes seconds here,
        memoryless_passes here, List.map_cons, ih _ blankLater later, Status.ledger_noteAll]
      simp only [blankHere, Ledger.blank_append, notesOn_undated seconds, List.map_cons, ledgersOf]

variable (name : String) (items : List (Item ρ)) (onClose : Reply)

omit [Record ρ] in
theorem ofItems_records : (Source.ofItems name items onClose).records =
    items.filterMap Item.record? := by
  have given : itemsOf (Source.ofItems name items onClose).pulls = items := by
    rw [Source.ofItems]
    induction items with
    | nil => rfl
    | cons item rest ih => simp only [List.map_cons, itemsOf, ih]
  exact congrArg (List.filterMap Item.record?) given

theorem ofItems_drain (seconds : Float) (g : Progress ρ) :
    let d := (Source.ofItems name items onClose).drain seconds g
    d.stop = .exhausted ∧ d.progress.source = g.source.noteAll (items.map Item.note) := by
  simp only [Source.drain, Source.ofItems]
  induction items generalizing g with
  | nil => exact ⟨rfl, rfl⟩
  | cons item rest ih =>
    obtain ⟨stop, source⟩ :=
      ih ⟨g.source.noteAll [item.note], (item.enter seconds g.stations).stations⟩
    simp only [List.map_cons, drain, Pull.notes, notesOf, List.filterMap_nil, List.nil_append]
    refine ⟨stop, source.trans ?_⟩
    rw [← Status.noteAll_append]
    rfl

theorem run_memoryless (s : Source ρ) (runId : String) (seconds : Float) (g : Progress ρ)
    (exhausted : (s.drain seconds g).stop = .exhausted)
    (memoryless : ∀ t ∈ g.stations, t.step.Memoryless) :
    (s.run runId seconds g).result = .ok () ∧
      (s.run runId seconds g).progress = (s.drain seconds g).progress := by
  have noBulk : ∀ (staged : List String) (steps : List (Step ρ)), (∀ t ∈ steps, t.Memoryless) →
      bulkEnd staged steps = none := by
    intro staged steps each
    induction steps with
    | nil => rfl
    | cons t rest ih =>
      obtain ⟨here, later⟩ := List.forall_mem_cons.mp each
      cases t with
      | bulk sink => exact here.elim
      | record role step => exact ih later
  have none := noBulk (stagedIn (s.drain seconds g).effects) (g.stations.map (·.step))
    (List.forall_mem_map.mpr memoryless)
  refine ⟨by rw [run_result, exhausted, none]; rfl, ?_⟩
  rcases run_cases s runId seconds g with ⟨_, _, ended⟩ | ⟨_, went⟩
  · rw [ended]
  · have unpublished : publish (stagedIn (s.drain seconds g).effects)
        (s.drain seconds g).progress.stations = .none := by
      rw [← Option.map_eq_none_iff, publish_end, steps_of_fixtures, drain_fixtures,
        ← steps_of_fixtures, none]
    rw [went, runBulkSink, unpublished]

end Running

namespace Workflow

variable [Record ρ]

/-- What has become of a workflow that was built for these steps and for a source of these items,
by whatever builder, and then executed with a thread for its timer. -/
def Executed (plan : Plan) (steps : List (Step ρ)) (items : List (Item ρ)) (v : Workflow ρ) :
    Prop :=
  ∃ (host : Host) (builder : PipelineBuilder ρ) (name : String) (onClose : Reply)
    (w : Workflow ρ) (now : Instant),
    host.spawnFault = none ∧ (build host plan builder).result = .ok w ∧
      plan.Assembles builder ⟨.ofItems name items onClose, steps⟩ ∧
      v = (w.execute now).workflow

def ledgers (w : Workflow ρ) : List Ledger := w.summary.steps.map Snapshot.ledger

section Executing

variable {plan : Plan} {steps : List (Step ρ)} (memoryless : ∀ s ∈ steps, s.Memoryless)

include memoryless

theorem execute_ledgers {w : Workflow ρ} (untouched : w.Untouched)
    (spawned : w.timer.spawnFault = none) {name : String} {items : List (Item ρ)}
    {onClose : Reply} {startedAt : Instant} (source : w.source = .ofItems name items onClose)
    (start : w.progress = ⟨.start name .source startedAt, Station.startAll startedAt steps⟩)
    (now : Instant) :
    let v := (w.execute now).workflow
    v.ledgers = ledgersAfter steps items ∧ v.state = v.summary.state w.tolerance := by
  intro v
  have fresh : ∀ t ∈ w.progress.stations, t.status.ledger = .blank ∧ t.step.Memoryless := by
    intro t member
    rw [start] at member
    obtain ⟨i, inside, rfl⟩ := List.mem_mapIdx.mp member
    exact ⟨rfl, memoryless _ (List.getElem_mem inside)⟩
  have stepsOf : w.progress.stations.map (·.step) = steps := by
    rw [start]
    exact startAll_steps startedAt steps
  obtain ⟨exhausted, drained⟩ := ofItems_drain name items onClose now.toSeconds w.progress
  rw [← source] at exhausted drained
  obtain ⟨result, progress⟩ := run_memoryless w.source w.runId.text now.toSeconds w.progress
    exhausted fun t member => (fresh t member).2
  have swept : (w.source.drain now.toSeconds w.progress).progress.stations.map (·.status.ledger) =
      ledgersOf steps (items.filterMap Item.record?) := by
    rw [Source.drain, drain_stations, source, ← ofItems_records name items onClose, ← stepsOf]
    exact sweep_ledgers _ _ _ (fun t member => (fresh t member).1)
      fun t member => (fresh t member).2
  have whole := ran_spawned now spawned
  have reached : v.progress = (w.source.drain now.toSeconds w.progress).progress :=
    (execute_frame now untouched).1.trans ((congrArg Ran.progress whole).trans progress)
  have drawn : v.progress.source.ledger = .ofNotes (items.map Item.note) := by
    rw [reached, drained, Status.ledger_noteAll, start, Status.ledger_start, Ledger.blank_append]
  constructor
  · have statuses : v.ledgers = v.progress.statuses.map Status.ledger := by
      simp only [ledgers, summary, List.map_map]
      rfl
    rw [statuses, Progress.statuses, List.map_cons, drawn, List.map_map, ledgersAfter, ← swept,
      reached]
    rfl
  · obtain ⟨state, summary, _⟩ := (execute_views now untouched).1
    have settles := settled_state now untouched
    rw [whole, result] at settles
    rw [state, summary]
    exact settles

theorem executed_ledgers {items : List (Item ρ)} {v : Workflow ρ}
    (executed : Executed plan steps items v) :
    v.ledgers = ledgersAfter steps items ∧
      v.state = v.summary.state plan.config.tolerance := by
  obtain ⟨host, builder, name, onClose, w, now, spawned, built, assembles, rfl⟩ := executed
  obtain ⟨config, service, p, timer, prepared, assembled, _, fresh, _⟩ := build_ok built
  cases Plan.Assembles.unique ⟨config, service, prepared, assembled⟩ assembles
  have untouched := built_untouched built
  have tolerance : w.tolerance = plan.config.tolerance := by
    rw [fresh, (Plan.prepare_ok prepared).1]
    rfl
  rw [← tolerance]
  exact execute_ledgers memoryless untouched ((built_spawnFault built).trans spawned)
    (by rw [fresh]; rfl) (by rw [fresh]; rfl) now

end Executing

/-- Running over items is a homomorphism: the ledgers of a run over some items and then others are
the sums of the two runs. An item adds what it would have added alone, wherever it stands, and in
whatever order the items come, they come to the same counters and to the same verdict. -/
theorem execute_homomorphic {plan : Plan} {steps : List (Step ρ)}
    (memoryless : ∀ s ∈ steps, s.Memoryless) {run : List (Item ρ) → Workflow ρ}
    (executed : ∀ items, Executed plan steps items (run items)) :
    (∀ items, (run items).ledgers.length = steps.length + 1) ∧
      (∀ xs ys, (run (xs ++ ys)).ledgers =
        List.zipWith (· ++ ·) (run xs).ledgers (run ys).ledgers) ∧
      (∀ before item after,
        (run (before ++ item :: after)).ledgers =
            List.zipWith (· ++ ·) (run before).ledgers
              (List.zipWith (· ++ ·) (run [item]).ledgers (run after).ledgers) ∧
          (run (before ++ after)).ledgers =
            List.zipWith (· ++ ·) (run before).ledgers (run after).ledgers) ∧
      ∀ xs ys, xs.Perm ys →
        List.Forall₂ Ledger.Shuffled (run xs).ledgers (run ys).ledgers ∧
          (run xs).summary.totals = (run ys).summary.totals ∧
          (run xs).summary.failureRatio = (run ys).summary.failureRatio ∧
          (run xs).state = (run ys).state := by
  have known : ∀ items, (run items).ledgers = ledgersAfter steps items :=
    fun items => (executed_ledgers memoryless (executed items)).1
  have joined : ∀ xs ys, (run (xs ++ ys)).ledgers =
      List.zipWith (· ++ ·) (run xs).ledgers (run ys).ledgers := by
    intro xs ys
    rw [known, known, known, ledgersAfter_append]
  refine ⟨?_, joined, ?_, ?_⟩
  · intro items
    rw [known, ledgersAfter, List.length_cons, ledgersOf_length]
  · intro before item after
    refine ⟨?_, joined before after⟩
    rw [joined before (item :: after), ← joined [item] after]
    rfl
  · intro xs ys same
    have shuffled : List.Forall₂ Ledger.Shuffled (run xs).ledgers (run ys).ledgers := by
      rw [known, known]
      exact ledgersAfter_perm steps same
    have totals : (run xs).summary.totals = (run ys).summary.totals :=
      Summary.totals_of_ledgers shuffled
    refine ⟨shuffled, totals, congrArg Counts.failureRatio totals, ?_⟩
    rw [(executed_ledgers memoryless (executed xs)).2,
      (executed_ledgers memoryless (executed ys)).2, Summary.state, Summary.state, totals]

def fussySteps : List (Step String) :=
  [.record .processor
      ((Scripted.Script.mk [] [("a", .panic (.text "boom")), ("b", .filter "draft")]
        .next).step "clean" .done),
    .record .sink
      ((Scripted.Script.mk [] [] .consume |>.failingOn ["c"]).step "load" .done)]

theorem fussySteps_memoryless : ∀ s ∈ fussySteps, s.Memoryless := by
  simp only [fussySteps, List.mem_cons, List.not_mem_nil, or_false]
  rintro s (rfl | rfl) <;> exact script_memoryless _ _ _ _ rfl

theorem deployed_executed {ps : List (Step String)} (items : List (Item String)) :
    Executed deployedPlan ps items
      ((deployed ⟨.ofItems "crm" items .done, ps⟩).execute .epoch).workflow :=
  ⟨_, _, "crm", .done, _, .epoch, rfl, deployed_built _, ⟨_, _, rfl, rfl⟩, rfl⟩

def fussyRun (items : List (Item String)) : Workflow String :=
  ((deployed ⟨.ofItems "crm" items .done, fussySteps⟩).execute .epoch).workflow

theorem execute_homomorphic_fussy :
    let xs : List (Item String) := [.record "a", .record "c"]
    let ys : List (Item String) := [.record "d", .filtered "e" "old", .record "b"]
    (∀ s ∈ fussySteps, s.Memoryless) ∧
      (∀ items, Executed deployedPlan fussySteps items (fussyRun items)) ∧
      (fussyRun (xs ++ ys)).summary.totals = ⟨7, 2, 0, 2⟩ ∧
      (fussyRun (ys ++ xs)).summary.totals = ⟨7, 2, 0, 2⟩ := by
  intro xs ys
  have executed : ∀ items, Executed deployedPlan fussySteps items (fussyRun items) :=
    fun items => deployed_executed items
  obtain ⟨_, _, _, moved⟩ := execute_homomorphic fussySteps_memoryless executed
  have totals : (fussyRun (xs ++ ys)).summary.totals = ⟨7, 2, 0, 2⟩ := rfl
  obtain ⟨_, same, _⟩ := moved (ys ++ xs) (xs ++ ys) List.perm_append_comm
  exact ⟨fussySteps_memoryless, executed, totals, same.trans totals⟩

end Workflow

end Intake
