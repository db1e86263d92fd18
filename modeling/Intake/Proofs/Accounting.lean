import Intake.Proofs.Isolation
import Intake.Proofs.Moments
import Intake.Proofs.Tallies

/-!
No record is lost or counted twice. Between any two pulls, and at the end however it comes, what
the statuses count is what has been done: each item at the source, each record at every step it has
come to, and each routed record once more where it has stopped or has left the last station.
-/
namespace Intake

variable {ρ : Type}

def Effect.isItem : Effect → Bool
  | .pulled _ key => key.isSome
  | _ => false

def itemsIn (trace : List Effect) : Nat := trace.countP Effect.isItem

/-- Every item and every record is accounted for. -/
structure Accounted (items : List (Item ρ)) (left : List ρ) (g : Progress ρ)
    (trace : List Effect) : Prop where
  drawn : itemsIn trace = items.length
  source : g.source.counts.processed = items.length
  routed : g.source.scanned = (items.filterMap Item.record?).length
  stations : ∀ s ∈ g.stations, s.Tallied trace
  conserved : g.source.scanned = (g.stations.map Station.stopped).sum + left.length

def Source.WarnsOnly (s : Source ρ) : Prop :=
  ∀ p ∈ s.pulls, ∀ n ∈ notesOf p.actions, ∃ key message, n = .warning key message

structure Pipeline.WarnsOnly (p : Pipeline ρ) : Prop where
  source : p.source.WarnsOnly
  steps : ∀ s ∈ p.steps, s.WarnsOnly

theorem itemsIn_append (trace more : List Effect) :
    itemsIn (trace ++ more) = itemsIn trace + itemsIn more :=
  List.countP_append

theorem itemsIn_handling {trace : List Effect} (handling : Handling trace) :
    itemsIn trace = 0 := by
  refine List.countP_eq_zero.mpr fun e member item => ?_
  have noPull := (handling e member).2
  cases e <;> simp_all [Effect.isItem, Effect.isPull]

theorem itemsIn_uncalled {trace : List Effect} (uncalled : ∀ e ∈ trace, e.isCall = false) :
    itemsIn trace = 0 := by
  refine List.countP_eq_zero.mpr fun e member item => ?_
  have silent := uncalled e member
  cases e <;> first | cases item | cases silent

section Pulls

variable {s : Source ρ}

theorem Source.WarnsOnly.pull (warnsOnly : s.WarnsOnly) (n : Nat) :
    ∀ note ∈ notesOf (s.pull n).actions, ∃ key message, note = .warning key message := by
  cases drop : s.pulls.drop n with
  | nil =>
    rw [s.pull_rest n drop]
    intro note member
    cases member
  | cons p ps =>
    have member : p ∈ s.pulls := by
      apply List.mem_of_mem_drop
      rw [drop]
      exact List.mem_cons_self
    rw [(s.pull_eq n p ps drop).1]
    exact warnsOnly p member

variable [Record ρ]

theorem pull_counts (status : Status) (p : Pull ρ)
    (warnings : ∀ n ∈ notesOf p.actions, ∃ key message, n = Note.warning key message) :
    (status.noteAll p.notes).counts.processed =
        status.counts.processed + p.drawn.toOption.toList.length ∧
      (status.noteAll p.notes).scanned =
        status.scanned + (p.drawn.toOption.toList.filterMap Item.record?).length := by
  obtain ⟨scanned, filtered, failures⟩ := views_of_warnings _ warnings
  cases drawn : p.drawn with
  | error stop =>
    simp [Pull.notes, drawn, Status.noteAll_eq, scanned, filtered, failures, Status.counts,
      Counts.processed, Except.toOption]
  | ok item =>
    cases item <;>
      simp [Pull.notes, drawn, Status.noteAll_eq, scanned, filtered, failures, Status.counts,
        Counts.processed, Except.toOption, Item.note, Item.record?, List.filterMap_cons,
        Note.isScanned, Note.filtered?, Note.failure?] <;> omega

theorem pull_items (name : String) (p : Pull ρ) :
    itemsIn (p.effects name) = p.drawn.toOption.toList.length := by
  obtain ⟨tail, effects, routing, _⟩ := pull_first name p
  rw [effects, itemsIn, List.countP_cons, ← itemsIn, itemsIn_handling routing.handling]
  cases p.drawn <;> rfl

end Pulls

theorem Accounted.framed {items : List (Item ρ)} {left : List ρ} {g : Progress ρ}
    {trace front back : List Effect} (accounted : Accounted items left g trace)
    (before : ∀ e ∈ front, e.isCall = false) (after : ∀ e ∈ back, e.isCall = false) :
    Accounted items left g (front ++ (trace ++ back)) := by
  refine ⟨?_, accounted.source, accounted.routed, ?_, accounted.conserved⟩
  · rw [itemsIn_append, itemsIn_append, itemsIn_uncalled before, itemsIn_uncalled after,
      accounted.drawn]
    omega
  · intro s member
    exact ((accounted.stations s member).later (runsAt_uncalled after)).earlier
      (runsAt_uncalled before)

theorem start_accounted (name : String) (startedAt : Instant) (steps : List (Step ρ)) :
    Accounted [] [] ⟨.start name .source startedAt, Station.startAll startedAt steps⟩ [] := by
  have member : ∀ s ∈ Station.startAll startedAt steps,
      ∃ i step, s = Station.start startedAt i step := by
    intro s inside
    obtain ⟨i, less, rfl⟩ := List.mem_mapIdx.mp inside
    exact ⟨_, _, rfl⟩
  refine ⟨rfl, rfl, rfl, ?_, ?_⟩
  · intro s inside
    obtain ⟨i, step, rfl⟩ := member s inside
    exact ⟨fun _ _ _ => rfl, fun _ _ _ => rfl⟩
  · have none : ∀ s ∈ Station.startAll startedAt steps, s.stopped = 0 := by
      intro s inside
      obtain ⟨i, step, rfl⟩ := member s inside
      cases step <;> rfl
    have zero : ((Station.startAll startedAt steps).map Station.stopped).sum = 0 := by
      rw [List.map_congr_left none]
      simp
    rw [zero]
    rfl

section Runs

variable [Record ρ] {s : Source ρ} {seconds : Float} {g : Progress ρ} {n : Nat} {m : Moment ρ}

theorem take_accounted (item : Item ρ) (drawn : (s.pull n).drawn = .ok item)
    (sourceWarns : s.WarnsOnly) (stepsWarn : ∀ t ∈ m.progress.stations, t.step.WarnsOnly)
    (apart : (m.progress.stations.map (·.place)).Nodup)
    (accounted : Accounted m.items m.left m.progress m.trace) :
    let after := m.take seconds s.name (s.pull n) item
    Accounted after.items after.left after.progress after.trace := by
  intro after
  obtain ⟨processed, scanned⟩ := pull_counts m.progress.source (s.pull n) (sourceWarns.pull n)
  have items := pull_items s.name (s.pull n)
  have entered := itemsIn_handling (enter_handling seconds m.progress.stations item)
  simp only [drawn, Except.toOption, Option.toList_some] at processed scanned items
  have sourceScanned : after.progress.source.scanned =
      m.progress.source.scanned + ([item].filterMap Item.record?).length := scanned
  have pulled : ∀ t ∈ m.progress.stations, t.Tallied (m.trace ++ (s.pull n).effects s.name) := by
    intro t member
    exact (accounted.stations t member).later (pull_unrun s.name (s.pull n) t.place)
  have trace : after.trace =
      m.trace ++ (s.pull n).effects s.name ++ (item.enter seconds m.progress.stations).effects :=
    (List.append_assoc _ _ _).symm
  refine ⟨?_, ?_, ?_, ?_, ?_⟩
  · rw [trace, itemsIn_append, itemsIn_append, accounted.drawn, items, entered]
    simp [after, Moment.take]
  · simp only [after, Moment.take, processed, accounted.source, List.length_append]
  · rw [sourceScanned, accounted.routed]
    simp only [after, Moment.take, List.filterMap_append, List.length_append]
  · rw [trace]
    cases item with
    | record r => exact route_tallied seconds m.progress.stations r stepsWarn apart pulled
    | filtered key reason =>
      intro t member
      simpa only [Item.enter, List.append_nil] using pulled t member
    | failed f =>
      intro t member
      simpa only [Item.enter, List.append_nil] using pulled t member
  -- a record stops at one station or leaves the last one; other items count nowhere
  · rw [sourceScanned, accounted.conserved]
    cases item with
    | record r =>
      have routed := route_conserves seconds m.progress.stations r stepsWarn
      simp only [after, Moment.take, Item.enter, List.length_append, Item.record?,
        List.filterMap_cons, List.filterMap_nil, List.length_singleton]
      omega
    | filtered key reason => simp [after, Moment.take, Item.enter, Item.record?]
    | failed f => simp [after, Moment.take, Item.enter, Item.record?]

theorem reached_accounted (reached : s.Reaches seconds g n m) (sourceWarns : s.WarnsOnly)
    (stepsWarn : ∀ t ∈ g.stations.map (·.step), t.WarnsOnly)
    (apart : (g.stations.map (·.place)).Nodup) (start : Accounted [] [] g []) :
    Accounted m.items m.left m.progress m.trace := by
  induction reached with
  | start => exact start
  | @next n m item before drawn ih =>
    -- the stations are those of the beginning, as far as places and steps go
    have fixed := before.fixtures
    refine take_accounted item drawn sourceWarns ?_ ?_ ih
    · intro t member
      rw [steps_of_fixtures, ← fixed, ← steps_of_fixtures] at stepsWarn
      exact stepsWarn t.step (List.mem_map_of_mem member)
    · rw [places_of_fixtures, fixed, ← places_of_fixtures]
      exact apart

theorem last_accounted {stop : Stop} (drawn : (s.pull n).drawn = .error stop)
    (sourceWarns : s.WarnsOnly) (accounted : Accounted m.items m.left m.progress m.trace) :
    Accounted m.items m.left
      ⟨m.progress.source.noteAll (s.pull n).notes, m.progress.stations⟩
      (m.trace ++ (s.pull n).effects s.name) := by
  obtain ⟨processed, scanned⟩ := pull_counts m.progress.source (s.pull n) (sourceWarns.pull n)
  have items := pull_items s.name (s.pull n)
  simp only [drawn, Except.toOption, Option.toList_none, List.filterMap_nil, List.length_nil,
    Nat.add_zero] at processed scanned items
  refine ⟨?_, ?_, ?_, ?_, ?_⟩
  · rw [itemsIn_append, items, accounted.drawn, Nat.add_zero]
  · rw [processed, accounted.source]
  · rw [scanned, accounted.routed]
  · intro t member
    exact (accounted.stations t member).later (pull_unrun s.name (s.pull n) t.place)
  · rw [scanned, accounted.conserved]

omit [Record ρ] in
theorem bulk_accounted {items : List (Item ρ)} {left : List ρ} {trace : List Effect}
    (runId : String) (staged : List String) (accounted : Accounted items left g trace) :
    Accounted items left (runBulkSink runId staged g).progress
      (trace ++ (runBulkSink runId staged g).effects) := by
  have drawn : itemsIn (trace ++ (runBulkSink runId staged g).effects) = items.length := by
    rw [itemsIn_append, itemsIn_handling (runBulkSink_handling runId staged g), accounted.drawn,
      Nat.add_zero]
  have logged : ∀ entry, ∀ s ∈ g.stations, s.Tallied (trace ++ [.logged entry]) := by
    intro entry s member
    exact (accounted.stations s member).later rfl
  cases published : publish staged g.stations with
  | none =>
    simp only [runBulkSink, published] at drawn ⊢
    exact ⟨drawn, accounted.source, accounted.routed, logged _, accounted.conserved⟩
  | some p =>
    -- a bulk sink stops no record, so the balance stays as it is
    have conserved := accounted.conserved
    rw [← publish_stopped published] at conserved
    simp only [runBulkSink, published] at drawn ⊢
    refine ⟨drawn, accounted.source, accounted.routed, ?_, conserved⟩
    rw [List.append_cons]
    exact publish_tallied published (logged _)

end Runs

namespace Workflow

theorem built_accounted {host : Host} {plan : Plan} {builder : PipelineBuilder ρ}
    {w : Workflow ρ} (built : (build host plan builder).result = .ok w)
    (warns : ∀ p, plan.Assembles builder p → p.WarnsOnly) :
    w.source.WarnsOnly ∧ (∀ t ∈ w.progress.stations.map (·.step), t.WarnsOnly) ∧
      (w.progress.stations.map (·.place)).Nodup ∧ Accounted [] [] w.progress [] := by
  obtain ⟨p, assembles, source, progress⟩ := built_pipeline built
  obtain ⟨sourceWarns, stepsWarn⟩ := warns p assembles
  rw [source, progress]
  refine ⟨sourceWarns, ?_, startAll_places _ _, start_accounted _ _ _⟩
  rw [startAll_steps]
  exact stepsWarn

section Executing

variable [Record ρ] {w : Workflow ρ} (now : Instant)

theorem ran_moment {before after : List Effect} {name : String} {key : Option String}
    (split : (w.ran now).effects = before ++ .pulled name key :: after) :
    ∃ k m, w.source.Reaches now.toSeconds w.progress k m ∧ m.trace = before := by
  cases spawns : w.timer.spawnFault with
  | some reason =>
    rw [ran_refused now spawns] at split
    exact absurd split.symm (List.append_ne_nil_of_right_ne_nil _ (List.cons_ne_nil _ _))
  | none =>
    rw [ran_spawned now spawns] at split
    rcases run_cases w.source w.runId.text now.toSeconds w.progress with ⟨_, _, ended⟩ | ⟨_, went⟩
    · rw [ended] at split
      exact Source.moment_of_split split
    · rw [went] at split
      have noPull := runBulkSink_handling w.runId.text
        (stagedIn (w.source.drain now.toSeconds w.progress).effects)
        (w.source.drain now.toSeconds w.progress).progress
      obtain ⟨_, _, drained⟩ := split_back (fun e member => (noPull e member).2) rfl split
      exact Source.moment_of_split drained

/-- Before any of its pulls an execution is at the moment that the pulls until then have led to,
and nothing else has been called. -/
theorem execute_moment (untouched : w.Untouched) {before after : List Effect} {name : String}
    {key : Option String} (split : (w.execute now).effects = before ++ .pulled name key :: after) :
    ∃ front m, w.source.Reaches now.toSeconds w.progress (pullsIn before) m ∧
      before = front ++ m.trace ∧ ∀ e ∈ front, e.isCall = false := by
  obtain ⟨_, front, back, effects, quiet, quiet'⟩ := execute_frame now untouched
  rw [effects] at split
  obtain ⟨earlier, rfl, inside⟩ := split_front (unpulled_of_uncalled quiet) rfl split
  obtain ⟨_, _, inside⟩ := split_back (unpulled_of_uncalled quiet') rfl inside
  obtain ⟨n, m, reached, rfl⟩ := ran_moment now inside
  have pulls : pullsIn (front ++ m.trace) = n := by
    rw [← pullsIn_callsIn, callsIn_append, callsIn_none quiet, List.nil_append, pullsIn_callsIn,
      reached.pulls]
  exact ⟨front, m, pulls.symm ▸ reached, rfl, quiet⟩

theorem ran_accounted {k : Nat} {stop : Stop} (spawned : w.timer.spawnFault = none)
    (stops : w.source.StopsAfter k stop) (sourceWarns : w.source.WarnsOnly)
    (accounted : ∀ n m, w.source.Reaches now.toSeconds w.progress n m →
      Accounted m.items m.left m.progress m.trace) :
    ∃ m, w.source.Reaches now.toSeconds w.progress k m ∧
      Accounted m.items m.left (w.ran now).progress (w.ran now).effects := by
  obtain ⟨m, reached, drained⟩ := Source.reaches_end stops now.toSeconds w.progress
  have last := last_accounted stops.2 sourceWarns (accounted k m reached)
  refine ⟨m, reached, ?_⟩
  rw [ran_spawned now spawned]
  rcases run_cases w.source w.runId.text now.toSeconds w.progress with ⟨_, _, ended⟩ | ⟨_, went⟩
  · rw [ended, drained]
    exact last
  · rw [went, drained]
    exact bulk_accounted _ _ last

end Executing

/-- A trace shows the moment that the run has come to by the pulls in it. -/
theorem execute_accounts [Record ρ] {host : Host} {plan : Plan} {builder : PipelineBuilder ρ}
    {w : Workflow ρ} (built : (build host plan builder).result = .ok w)
    (warns : ∀ p, plan.Assembles builder p → p.WarnsOnly) (now : Instant) :
    let t := w.execute now
    let reaches := w.source.Reaches now.toSeconds w.progress
    (∀ before source key after, t.effects = before ++ .pulled source key :: after →
        ∃ m, reaches (pullsIn before) m ∧ Accounted m.items m.left m.progress before) ∧
      (host.spawnFault = none →
        ∃ k stop m, w.source.StopsAfter k stop ∧ reaches k m ∧ pullsIn t.effects = k + 1 ∧
          Accounted m.items m.left t.workflow.progress t.effects) ∧
      (host.spawnFault ≠ none →
        pullsIn t.effects = 0 ∧ Accounted [] [] t.workflow.progress t.effects) ∧
      ∀ n m r, reaches n m → (w.source.pull n).drawn = .ok (.record r) →
        let q := route now.toSeconds m.progress.stations r
        StopsOnce m.progress.stations q ∧
          ∃ m', reaches (n + 1) m' ∧ m'.progress.stations = q.stations ∧
            m'.left = m.left ++ q.left.toList := by
  intro t reaches
  have untouched := built_untouched built
  obtain ⟨sourceWarns, stepsWarn, apart, start⟩ := built_accounted built warns
  have accounted : ∀ n m, reaches n m → Accounted m.items m.left m.progress m.trace :=
    fun n m reached => reached_accounted reached sourceWarns stepsWarn apart start
  have fault := built_spawnFault built
  obtain ⟨progress, front, back, effects, quiet, quiet'⟩ := execute_frame now untouched
  -- what the run itself accounts for, the whole execution does
  have framed : ∀ {items left}, Accounted items left (w.ran now).progress (w.ran now).effects →
      Accounted items left t.workflow.progress t.effects := by
    intro items left done
    rw [show t.workflow.progress = (w.ran now).progress from progress,
      show t.effects = front ++ ((w.ran now).effects ++ back) from effects]
    exact done.framed quiet quiet'
  have pulls : pullsIn t.effects = _ := execute_pulls now untouched
  rw [← fault]
  refine ⟨?_, ?_, ?_, ?_⟩
  · intro before source key after split
    obtain ⟨front, m, reached, rfl, quiet⟩ := execute_moment now untouched split
    refine ⟨m, reached, ?_⟩
    simpa only [List.append_nil] using
      (accounted _ m reached).framed quiet (List.forall_mem_nil _)
  · intro spawned
    have stops := source_stopsAfter w.source now.toSeconds w.progress
    obtain ⟨m, reached, done⟩ := ran_accounted now spawned stops sourceWarns accounted
    exact ⟨_, _, m, stops, reached, pulls.trans (by rw [spawned]; rfl), framed done⟩
  · intro refused
    obtain ⟨reason, fault⟩ := Option.ne_none_iff_exists'.mp refused
    refine ⟨pulls.trans (by rw [fault]; rfl), framed ?_⟩
    rw [ran_refused now fault]
    exact start
  · intro n m r reached drawn q
    refine ⟨route_stops_once now.toSeconds m.progress.stations r ?_, _, reached.next drawn,
      rfl, rfl⟩
    rw [steps_of_fixtures, ← reached.fixtures, ← steps_of_fixtures] at stepsWarn
    exact fun s member => stepsWarn s.step (List.mem_map_of_mem member)

theorem execute_accounts_lossy :
    (∀ p, deployedPlan.Assembles (Prebuilt.ofPipeline ⟨lossySource, mixedSteps⟩).builder p →
        p.WarnsOnly) ∧
      let t := (deployed ⟨lossySource, mixedSteps⟩).execute .epoch
      itemsIn t.effects = 4 ∧ t.workflow.progress.source.counts.processed = 4 ∧
        ∃ left : List String, t.workflow.progress.source.scanned =
          (t.workflow.progress.stations.map Station.stopped).sum + left.length := by
  have warns : ∀ p,
      deployedPlan.Assembles (Prebuilt.ofPipeline ⟨lossySource, mixedSteps⟩).builder p →
        p.WarnsOnly := by
    rintro p ⟨_, _, _, assembled⟩
    cases assembled
    refine ⟨?_, mixedSteps_warnOnly⟩
    simp only [Source.WarnsOnly, lossySource, List.mem_cons, List.not_mem_nil, or_false]
    rintro p (rfl | rfl | rfl | rfl | rfl | rfl) n member <;>
      simp only [notesOf, List.filterMap_nil, List.filterMap_cons, List.not_mem_nil,
        Action.note?, List.mem_singleton] at member
    exact ⟨_, _, member⟩
  obtain ⟨_, spawned, _⟩ :=
    execute_accounts (deployed_built ⟨lossySource, mixedSteps⟩) warns .epoch
  obtain ⟨k, stop, m, stops, reached, _, accounted⟩ := spawned rfl
  have known : lossySource.StopsAfter 4 (.failed (.ofMessage "lost")) :=
    source_stopsAfter lossySource 0.0 ⟨.start "crm" .source .epoch, []⟩
  obtain ⟨rfl, _⟩ := stops.unique known
  refine ⟨warns, ?_, ?_, m.left, accounted.conserved⟩
  · rw [accounted.drawn, reached.length]
  · rw [accounted.source, reached.length]

end Workflow

end Intake
