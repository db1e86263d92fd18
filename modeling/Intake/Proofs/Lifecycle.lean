import Intake.Proofs.Building
import Intake.Proofs.RunEnd
import Intake.Scripted.Sample
import Intake.Workflow.Execute

/-!
One execution, taken apart. A workflow of which nothing has been asked runs its pipeline, settles
on a state, announces it and stops. Once it has stopped, no further call does anything.
-/
namespace Intake

variable {ρ : Type}

def Reporter.Calm (r : Reporter) : Prop := ∀ report p, r.answer report ≠ .panicked p

def EventSink.Calm (s : EventSink) : Prop := ∀ type data, s.panics type data = none

/-- An idle timer once it has been started, whether or not that has worked. -/
def Timer.launched (t : Timer) : Timer :=
  match t.spawnFault with
  | none => { t with phase := .running }
  | some _ => t

namespace Workflow

structure Untouched (w : Workflow ρ) : Prop where
  executed : w.executed = false
  stopped : w.stopped = false
  idle : w.timer.phase = .idle

theorem built_untouched {host : Host} {plan : Plan} {builder : PipelineBuilder ρ} {w : Workflow ρ}
    (built : (build host plan builder).result = .ok w) : w.Untouched := by
  obtain ⟨_, timer⟩ := built_timer built
  obtain ⟨_, _, _, _, _, _, _, fresh, _⟩ := build_ok built
  exact ⟨by rw [fresh]; rfl, by rw [fresh]; rfl, by rw [timer]⟩

section Telling

variable (now : Instant) (w : Workflow ρ)

theorem sendReport_cases :
    ∃ logs : List Log.Entry,
      (w.sendReport now).effects = (w.report? now).toList.map .reported ++ logs.map .logged ∧
        ((w.sendReport now).result = .ok () ∨
          ∃ r p, w.report? now = some r ∧ w.reporter.answer r = .panicked p ∧
            (w.sendReport now).result = .error (.panic p)) := by
  unfold sendReport
  cases w.report? now with
  | none => exact ⟨[_], rfl, .inl rfl⟩
  | some r =>
    cases answer : w.reporter.answer r with
    | done =>
      refine ⟨w.reporter.entries r, ?_, .inl ?_⟩ <;>
        simp [bind, Traced.bind, Traced.tell, answer, pure]
    | failed e =>
      refine ⟨w.reporter.entries r ++ [⟨.warn, "Failed to report pipeline status: " ++ e.text,
        [w.runField, ("state", .text w.state.text)]⟩], ?_, .inl ?_⟩ <;>
        simp [bind, Traced.bind, Traced.tell, answer]
    | panicked p =>
      refine ⟨w.reporter.entries r, ?_, .inr ⟨r, p, rfl, answer, ?_⟩⟩ <;>
        simp [bind, Traced.bind, Traced.tell, answer]

omit now in
def finishedEntry : Log.Entry :=
  ⟨.info, "Workflow finished\n" ++ w.summary.render,
    [w.runField, ("state", .text w.state.text), ("failure_ratio", .ratio w.summary.failureRatio)]⟩

theorem announce_cases :
    ∃ (logs : List Log.Entry) (reports : List Report),
      (w.announce now).effects =
          .logged w.finishedEntry :: .emitted summaryEvent (some w.summaryPayload) ::
              ((w.events.entries summaryEvent (some w.summaryPayload)).map .logged ++
                reports.map .reported) ++
            logs.map .logged ∧
        ((∃ p, w.events.panics summaryEvent (some w.summaryPayload) = some p ∧ reports = [] ∧
            (w.announce now).result = .error (.panic p)) ∨
          w.events.panics summaryEvent (some w.summaryPayload) = none ∧
            reports = (w.report? now).toList ∧
            ((w.announce now).result = .ok () ∨
              ∃ r p, w.report? now = some r ∧ w.reporter.answer r = .panicked p ∧
                (w.announce now).result = .error (.panic p))) := by
  obtain ⟨logs, sent, returns⟩ := sendReport_cases now w
  unfold announce emit
  cases taking : w.events.panics summaryEvent (some w.summaryPayload) with
  | some p =>
    refine ⟨[], [], ?_, .inl ⟨p, rfl, rfl, ?_⟩⟩ <;>
      simp [bind, Traced.bind, Traced.tell, finishedEntry]
  | none =>
    refine ⟨logs, (w.report? now).toList, ?_, .inr ⟨rfl, rfl, ?_⟩⟩
    · simp [bind, Traced.bind, Traced.tell, pure, sent, finishedEntry]
    · rcases returns with ok | ⟨r, p, report, panicked, thrown⟩
      · exact .inl (by simp [bind, Traced.bind, Traced.tell, pure, ok])
      · refine .inr ⟨r, p, report, panicked, ?_⟩
        simp [bind, Traced.bind, Traced.tell, pure, thrown]

theorem announce_tells (e : Effect) (member : e ∈ (w.announce now).effects) :
    (∃ entry, e = .logged entry) ∨ (∃ type data, e = .emitted type data) ∨
      ∃ r, e = .reported r := by
  obtain ⟨logs, reports, effects, _⟩ := announce_cases now w
  simp only [effects, List.mem_cons, List.mem_append, List.mem_map] at member
  rcases member with (rfl | rfl | ⟨_, _, rfl⟩ | ⟨_, _, rfl⟩) | ⟨_, _, rfl⟩
  · exact .inl ⟨_, rfl⟩
  · exact .inr (.inl ⟨_, _, rfl⟩)
  · exact .inl ⟨_, rfl⟩
  · exact .inr (.inr ⟨_, rfl⟩)
  · exact .inl ⟨_, rfl⟩

theorem announce_closes : closesIn (w.announce now).effects = [] := by
  refine List.filterMap_eq_nil_iff.mpr fun e member => ?_
  rcases announce_tells now w e member with ⟨_, rfl⟩ | ⟨_, _, rfl⟩ | ⟨_, rfl⟩ <;> rfl

theorem announce_calm (calmReporter : w.reporter.Calm) (calmEvents : w.events.Calm) :
    (w.announce now).result = .ok () := by
  obtain ⟨_, _, _, ⟨p, taking, _⟩ | ⟨_, _, ok | ⟨r, p, _, panicked, _⟩⟩⟩ :=
    announce_cases now w
  · rw [calmEvents] at taking
    cases taking
  · exact ok
  · exact absurd panicked (calmReporter r p)

end Telling

section Executing

variable [Record ρ] (now : Instant) {w : Workflow ρ}

/-- The workflow when its run is over, in the state that the run ends in. -/
def settled (w : Workflow ρ) : Workflow ρ :=
  { (w.run now).workflow with state := (w.run now).workflow.verdict (w.run now).result }

def settling (w : Workflow ρ) : List Effect :=
  (w.run now).effects ++ (w.run now).workflow.failureEntries (w.run now).result

/-- The run of the pipeline. Without a thread for the timer it does not come about. -/
def ran (w : Workflow ρ) : Ran ρ :=
  match w.timer.spawnFault with
  | none => w.source.run w.runId.text now.toSeconds w.progress
  | some reason => ⟨w.progress, .error (.timer (.spawnFailed w.timer.name reason)), []⟩

theorem ran_spawned (spawned : w.timer.spawnFault = none) :
    w.ran now = w.source.run w.runId.text now.toSeconds w.progress := by
  rw [ran, spawned]

theorem ran_refused {reason : String} (refused : w.timer.spawnFault = some reason) :
    w.ran now = ⟨w.progress, .error (.timer (.spawnFailed w.timer.name reason)), []⟩ := by
  rw [ran, refused]

omit [Record ρ] in
def startingEntry (w : Workflow ρ) : Log.Entry :=
  ⟨.info, "Starting workflow",
    [w.runField, ("kind", .text w.kind.text), ("source", .text w.source.name)]⟩

omit [Record ρ] in
def launching (w : Workflow ρ) : List Effect :=
  match w.timer.spawnFault with
  | none => [.timerStarted, .logged w.timer.startEntry, .logged w.startingEntry]
  | some _ => []

theorem run_untouched (untouched : w.Untouched) :
    w.run now =
      ⟨{ w with
          executed := true
          timer := w.timer.launched
          progress := (w.ran now).progress },
        (w.ran now).result, w.launching ++ (w.ran now).effects⟩ := by
  cases spawns : w.timer.spawnFault <;>
    simp [run, Timer.start, Timer.launched, untouched.idle, spawns, ran, launching, startingEntry]

theorem settled_eq (untouched : w.Untouched) :
    w.settled now =
      { w with
        executed := true
        timer := w.timer.launched
        progress := (w.ran now).progress
        state := (w.settled now).state } := by
  simp only [settled, run_untouched now untouched]

theorem settled_state (untouched : w.Untouched) :
    (w.settled now).state =
      match (w.ran now).result with
      | .ok _ => (w.settled now).summary.state w.tolerance
      | .error _ => .failed := by
  rw [settled, run_untouched now untouched]
  cases (w.ran now).result <;> rfl

theorem settling_eq (untouched : w.Untouched) :
    w.settling now =
      w.launching ++ ((w.ran now).effects ++ w.failureEntries (w.ran now).result) := by
  rw [settling, run_untouched now untouched, List.append_assoc]
  cases (w.ran now).result <;> rfl

omit [Record ρ] in
theorem failureEntries_inner (w : Workflow ρ) (result : Except WorkflowError Unit) :
    Inner (w.failureEntries result) := by
  cases result with
  | ok _ => exact .nil
  | error e => exact .cons rfl .nil

theorem ran_inner (w : Workflow ρ) : Inner (w.ran now).effects := by
  cases spawns : w.timer.spawnFault with
  | none =>
    rw [ran_spawned now spawns]
    exact run_inner w.source _ _ w.progress
  | some reason =>
    rw [ran_refused now spawns]
    exact .nil

theorem ran_fixtures (w : Workflow ρ) :
    fixtures (w.ran now).progress.stations = fixtures w.progress.stations := by
  cases spawns : w.timer.spawnFault with
  | none => rw [ran_spawned now spawns, run_fixtures]
  | some reason => rw [ran_refused now spawns]

/-- Until the run is over nothing is done outside the pipeline, but to start the timer. -/
theorem settling_inner (untouched : w.Untouched) :
    ∃ rest, Inner rest ∧
      (w.settling now = .timerStarted :: rest ∧ (w.settled now).timer.isRunning = true ∨
        w.settling now = rest ∧ (w.settled now).timer.isRunning = false) := by
  have ran := (ran_inner now w).append (failureEntries_inner w (w.ran now).result)
  have timer : (w.settled now).timer = w.timer.launched := by rw [settled_eq now untouched]
  rw [settling_eq now untouched, timer, launching, Timer.launched]
  cases w.timer.spawnFault with
  | none => exact ⟨_, .cons rfl (.cons rfl ran), .inl ⟨rfl, rfl⟩⟩
  | some reason => exact ⟨_, ran, .inr ⟨rfl, by simp [Timer.isRunning, untouched.idle]⟩⟩

theorem execute_eq (first : w.executed = false) (running : w.stopped = false) :
    w.execute now =
      let told := (w.settled now).announce now
      match told.result with
      | .error i => ⟨w.settled now, .error i, w.settling now ++ told.effects⟩
      | .ok () =>
        ⟨(w.settled now).stop.workflow,
          ((w.run now).result.map fun _ => (w.settled now).state).mapError .error,
          w.settling now ++ told.effects ++ (w.settled now).stop.effects⟩ := by
  unfold execute
  rw [if_neg (by simp [first]), if_neg (by simp [running])]
  rfl

/-- What is told about the end of a run is lost in a panic of the event sink or of the reporter. -/
def Lost (w : Workflow ρ) (p : Payload) : Prop :=
  w.events.panics summaryEvent (some w.summaryPayload) = some p ∨
    ∃ r, w.report? now = some r ∧ w.reporter.answer r = .panicked p

/-- An execution either stops the workflow, or is left by a panic on the way. -/
theorem execute_cases (untouched : w.Untouched) :
    let told := (w.settled now).announce now
    (told.result = .ok () ∧
        w.execute now =
          ⟨(w.settled now).stop.workflow,
            ((w.ran now).result.map fun _ => (w.settled now).state).mapError .error,
            w.settling now ++ told.effects ++ (w.settled now).stop.effects⟩) ∨
      ∃ p, (w.settled now).Lost now p ∧ told.result = .error (.panic p) ∧
        w.execute now = ⟨w.settled now, .error (.panic p), w.settling now ++ told.effects⟩ := by
  intro told
  have result : (w.run now).result = (w.ran now).result := by rw [run_untouched now untouched]
  rw [execute_eq now untouched.executed untouched.stopped, ← result]
  obtain ⟨_, _, _, ⟨p, taking, _, panicked⟩ | ⟨_, _, ok | ⟨r, p, report, answer, panicked⟩⟩⟩ :=
    announce_cases now (w.settled now)
  · exact .inr ⟨p, .inl taking, panicked, by simp only [told, panicked]⟩
  · exact .inl ⟨ok, by simp only [told, ok]⟩
  · exact .inr ⟨p, .inr ⟨r, report, answer⟩, panicked, by simp only [told, panicked]⟩

end Executing

def stoppedEntry (w : Workflow ρ) : Log.Entry :=
  ⟨.info, "Workflow stopped", [w.runField, ("state", .text w.state.text)]⟩

theorem stop_unstopped (w : Workflow ρ) (running : w.stopped = false) :
    w.stop =
      ⟨{ w with
          stopped := true
          timer := w.timer.stop.1 }, (),
        w.stopTimer.effects ++ closes w.closings ++ [.logged w.stoppedEntry]⟩ := by
  simp [stop, running, closes, stoppedEntry, stopTimer]

theorem stop_stopped (w : Workflow ρ) : w.stop.workflow.stopped = true := by
  cases running : w.stopped <;> simp [stop, running]

theorem stop_state (w : Workflow ρ) : w.stop.workflow.state = w.state := by
  unfold stop
  split <;> rfl

theorem stop_progress (w : Workflow ρ) : w.stop.workflow.progress = w.progress := by
  unfold stop
  split <;> rfl

section Answering

variable [Record ρ] (now : Instant) {w : Workflow ρ} (untouched : w.Untouched)

include untouched

theorem execute_state : (w.execute now).workflow.state = (w.settled now).state := by
  rcases execute_cases now untouched with ⟨_, returned⟩ | ⟨_, _, _, left⟩
  · rw [returned, stop_state]
  · rw [left]

/-- The answer is that of the run, unless what is told about the end is lost. -/
theorem execute_answer :
    (∃ p, (w.execute now).workflow.Lost now p ∧ (w.execute now).result = .error (.panic p)) ∨
      (w.execute now).result =
        ((w.ran now).result.map fun _ => (w.settled now).state).mapError .error := by
  rcases execute_cases now untouched with ⟨_, returned⟩ | ⟨p, lost, _, left⟩
  · exact .inr (by rw [returned])
  · rw [left]
    exact .inl ⟨p, lost, rfl⟩

end Answering

theorem stop_does (w : Workflow ρ) (e : Effect) (member : e ∈ w.stop.effects) :
    (∃ entry, e = .logged entry) ∨ e = .timerStopped ∨ ∃ c reply, e = .closed c reply := by
  cases running : w.stopped with
  | true =>
    simp only [stop, running, if_true] at member
    cases member
  | false =>
    simp only [stop_unstopped w running, List.mem_append, List.mem_singleton] at member
    rcases member with (timed | closed) | rfl
    · simp only [stopTimer] at timed
      split at timed
      · simp only [List.mem_cons, List.not_mem_nil, or_false] at timed
        rcases timed with rfl | rfl | rfl
        · exact .inr (.inl rfl)
        · exact .inl ⟨_, rfl⟩
        · exact .inl ⟨_, rfl⟩
      · cases timed
    · obtain ⟨c, _, rfl⟩ := List.mem_map.mp closed
      exact .inr (.inr ⟨_, _, rfl⟩)
    · exact .inl ⟨_, rfl⟩

theorem stopTimer_closes (w : Workflow ρ) : closesIn w.stopTimer.effects = [] := by
  simp only [stopTimer]
  split <;> rfl

/-- An execution calls its components in its run only, and the run leaves them as they are then. -/
theorem execute_frame [Record ρ] (now : Instant) {w : Workflow ρ} (untouched : w.Untouched) :
    (w.execute now).workflow.progress = (w.ran now).progress ∧
      ∃ front back, (w.execute now).effects = front ++ ((w.ran now).effects ++ back) ∧
        (∀ e ∈ front, e.isCall = false) ∧ ∀ e ∈ back, e.isCall = false := by
  have progress : (w.settled now).progress = (w.ran now).progress := by
    rw [settled_eq now untouched]
  have launched : ∀ e ∈ w.launching, e.isCall = false := by
    unfold launching
    split <;> simp [Effect.isCall]
  have failed : ∀ e ∈ w.failureEntries (w.ran now).result, e.isCall = false := by
    cases (w.ran now).result <;> simp [failureEntries, Effect.isCall]
  have told : ∀ e ∈ ((w.settled now).announce now).effects, e.isCall = false := by
    intro e member
    rcases announce_tells now _ e member with ⟨_, rfl⟩ | ⟨_, _, rfl⟩ | ⟨_, rfl⟩ <;> rfl
  have stopped : ∀ e ∈ (w.settled now).stop.effects, e.isCall = false := by
    intro e member
    rcases stop_does _ e member with ⟨_, rfl⟩ | rfl | ⟨_, _, rfl⟩ <;> rfl
  -- before the run the timer starts; after it there are log entries, what is told, and the stop
  rcases execute_cases now untouched with ⟨_, returned⟩ | ⟨p, _, _, left⟩
  · simp only [returned, settling_eq now untouched, List.append_assoc]
    refine ⟨(stop_progress _).trans progress, _, _, rfl, launched, ?_⟩
    simp only [List.mem_append]
    rintro e (first | second | third)
    · exact failed e first
    · exact told e second
    · exact stopped e third
  · simp only [left, settling_eq now untouched, List.append_assoc]
    refine ⟨progress, _, _, rfl, launched, ?_⟩
    simp only [List.mem_append]
    rintro e (first | second)
    · exact failed e first
    · exact told e second

theorem execute_callsIn [Record ρ] (now : Instant) {w : Workflow ρ} (untouched : w.Untouched) :
    callsIn (w.execute now).effects = callsIn (w.ran now).effects := by
  obtain ⟨_, front, back, effects, quiet, quiet'⟩ := execute_frame now untouched
  rw [effects, callsIn_append, callsIn_append, callsIn_none quiet, callsIn_none quiet',
    List.nil_append, List.append_nil]

/-- What is left of an execution whose timer gets no thread. Nothing is asked of the components, and
the error is given back unless what is told about it is lost. -/
structure Threadless (w : Workflow ρ) (now : Instant) (e : TimerError)
    (t : Turn ρ (Except Interruption RunState)) : Prop where
  uncalled : callsIn t.effects = []
  progress : t.workflow.progress = w.progress
  failed : t.workflow.state = .failed
  result : (∃ p, t.workflow.Lost now p ∧ t.result = .error (.panic p)) ∨
    t.result = .error (.error (.timer e))

theorem execute_threadless [Record ρ] (now : Instant) {w : Workflow ρ} (untouched : w.Untouched)
    {reason : String} (refused : w.timer.spawnFault = some reason) :
    w.Threadless now (.spawnFailed w.timer.name reason) (w.execute now) := by
  have ran := ran_refused now refused
  have failed : (w.settled now).state = .failed := by rw [settled_state now untouched, ran]
  have progress : (w.execute now).workflow.progress = (w.ran now).progress :=
    (execute_frame now untouched).1
  rw [ran] at progress
  refine ⟨?_, progress, (execute_state now untouched).trans failed, ?_⟩
  · rw [execute_callsIn now untouched, ran]
    rfl
  · refine (execute_answer now untouched).imp_right fun answer => ?_
    rw [answer, ran]
    rfl

def deployedPlan : Plan where
  config := .deployedSample
  catalog := .ofServices .default [] .done
  kind := .ingestion
  reporter := .failing (.ofMessage "orchestrator is down")
  events := .silent
  interval := none

def deployed (pipeline : Pipeline String) : Workflow String :=
  fresh ⟨.epoch, ⟨0⟩, none⟩ deployedPlan .deployedSample pipeline
    ⟨"ingestion-progress", .seconds 60, .idle, none⟩

theorem deployed_built (pipeline : Pipeline String) :
    (build ⟨.epoch, ⟨0⟩, none⟩ deployedPlan (Prebuilt.ofPipeline pipeline).builder).result =
      .ok (deployed pipeline) := rfl

theorem deployedPlan_calm : deployedPlan.reporter.Calm ∧ deployedPlan.events.Calm := by
  refine ⟨?_, fun _ _ => rfl⟩
  intro report p panicked
  cases panicked

end Workflow

end Intake
