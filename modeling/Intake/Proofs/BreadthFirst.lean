import Intake.Proofs.Alone
import Intake.Proofs.Trace
import Intake.Scripted.Step

/-!
Routing record by record and working step by step come to the same. The loop hands each record
through all stations before it asks for the next one; the reference lets every step finish its
whole input first. Steps answer from their own history, so the two orders cannot be told apart.
-/
namespace Intake

variable {ρ : Type} [Record ρ]

namespace Station

def afterAll (seconds : Float) : Station ρ → List ρ → Station ρ
  | s, [] => s
  | s, r :: rs => (s.process seconds r).station.afterAll seconds rs

def passedOn (seconds : Float) : Station ρ → List ρ → List ρ
  | _, [] => []
  | s, r :: rs =>
    let p := s.process seconds r
    p.next.toList ++ p.station.passedOn seconds rs

end Station

/-- Every station has all its records before the next one gets any. -/
def sweep (seconds : Float) : List (Station ρ) → List ρ → List (Station ρ)
  | [], _ => []
  | s :: rest, rs => s.afterAll seconds rs :: sweep seconds rest (s.passedOn seconds rs)

theorem sweep_nil (seconds : Float) (stations : List (Station ρ)) :
    sweep seconds stations [] = stations := by
  induction stations with
  | nil => rfl
  | cons s rest ih => simp [sweep, Station.afterAll, Station.passedOn, ih]

/-- One record routed and the others swept is the same as all of them swept. -/
theorem sweep_route (seconds : Float) (stations : List (Station ρ)) (r : ρ) (rs : List ρ) :
    sweep seconds (route seconds stations r).stations rs = sweep seconds stations (r :: rs) := by
  -- on the stations: what the first one passes on is what the others get, one by one or at once
  induction stations generalizing r rs with
  | nil => rfl
  | cons s rest ih =>
    cases passed : (s.process seconds r).next with
    | none => simp [route, passed, sweep, Station.afterAll, Station.passedOn]
    | some r' => simp [route, passed, sweep, Station.afterAll, Station.passedOn, ih]

theorem enter_sweep (seconds : Float) (stations : List (Station ρ)) (item : Item ρ)
    (rs : List ρ) :
    sweep seconds (item.enter seconds stations).stations rs =
      sweep seconds stations (item.record?.toList ++ rs) := by
  cases item with
  | record r => exact sweep_route seconds stations r rs
  | filtered key reason => rfl
  | failed f => rfl

theorem drain_stations (seconds : Float) (name : String) (rest : Stop) (ps : List (Pull ρ))
    (g : Progress ρ) :
    (drain seconds name rest ps g).progress.stations =
      sweep seconds g.stations (recordsOf ps) := by
  induction ps generalizing g with
  | nil => simp [drain, recordsOf, itemsOf, sweep_nil]
  | cons p ps ih =>
    cases drawn : p.drawn with
    | error stop => simp [drain, drawn, recordsOf, itemsOf, sweep_nil]
    | ok item =>
      have split : recordsOf (p :: ps) = item.record?.toList ++ recordsOf ps := by
        cases item <;> simp [recordsOf, itemsOf, drawn, Item.record?, List.filterMap_cons]
      simp only [drain, drawn, ih, enter_sweep, split]

def Response.notes (seconds : Float) (key : String) (a : Response ρ) : List Note :=
  notesOf a.actions ++ [a.outcome.note seconds key]

namespace RecordStep

def notes (seconds : Float) (s : RecordStep ρ) (earlier rs : List ρ) : List Note :=
  (rs.zip (s.responses earlier rs)).flatMap fun a => a.2.notes seconds (Record.key a.1)

theorem notes_cons (seconds : Float) (s : RecordStep ρ) (earlier : List ρ) (r : ρ) (rs : List ρ) :
    s.notes seconds earlier (r :: rs) =
      (s.react earlier r).notes seconds (Record.key r) ++ s.notes seconds (earlier ++ [r]) rs :=
  rfl

end RecordStep

theorem afterAll_record (seconds : Float) (place : Nat) (role : RecordRole) (s : RecordStep ρ)
    (earlier : List ρ) (status : Status) (rs : List ρ) :
    (Station.mk place (.record role s) earlier status).afterAll seconds rs =
      ⟨place, .record role s, earlier ++ rs,
        status.noteAll (s.notes seconds earlier rs)⟩ := by
  induction rs generalizing earlier status with
  | nil => simp [Station.afterAll, RecordStep.notes, RecordStep.responses, Status.noteAll]
  | cons r rs ih =>
    rw [RecordStep.notes_cons, Status.noteAll_append]
    simp [Station.afterAll, Station.process, ih, Response.notes]

theorem passedOn_record (seconds : Float) (place : Nat) (role : RecordRole) (s : RecordStep ρ)
    (earlier : List ρ) (status : Status) (rs : List ρ) :
    (Station.mk place (.record role s) earlier status).passedOn seconds rs =
      (rs.zip (s.responses earlier rs)).filterMap fun a => a.2.outcome.next? := by
  induction rs generalizing earlier status with
  | nil => rfl
  | cons r rs ih =>
    cases next : (s.react earlier r).outcome.next? <;>
      simp [Station.passedOn, Station.process, RecordStep.responses, next, ih]

theorem afterAll_bulk (seconds : Float) (place : Nat) (sink : BulkSink) (earlier : List ρ)
    (status : Status) (rs : List ρ) :
    (Station.mk place (.bulk sink) earlier status).afterAll seconds rs =
      ⟨place, .bulk sink, earlier, status⟩ := by
  induction rs with
  | nil => rfl
  | cons r rs ih => exact ih

theorem passedOn_bulk (seconds : Float) (place : Nat) (sink : BulkSink) (earlier : List ρ)
    (status : Status) (rs : List ρ) :
    (Station.mk place (.bulk sink) earlier status).passedOn seconds rs = rs := by
  induction rs with
  | nil => rfl
  | cons r rs ih => simpa [Station.passedOn, Station.process] using ih

omit [Record ρ] in
theorem mem_responses (s : RecordStep ρ) (earlier rs : List ρ) (a : Response ρ)
    (member : a ∈ s.responses earlier rs) : ∃ before r, a = s.react before r := by
  induction rs generalizing earlier with
  | nil => cases member
  | cons r rs ih =>
    rcases List.mem_cons.mp member with here | later
    · exact ⟨earlier, r, here⟩
    · exact ih _ later

theorem views_of_warnings (ns : List Note)
    (warnings : ∀ n ∈ ns, ∃ key message, n = Note.warning key message) :
    ns.countP Note.isScanned = 0 ∧ ns.filterMap Note.filtered? = [] ∧
      ns.filterMap Note.failure? = [] := by
  refine ⟨List.countP_eq_zero.mpr ?_, List.filterMap_eq_nil_iff.mpr ?_,
    List.filterMap_eq_nil_iff.mpr ?_⟩ <;>
  · intro n member
    obtain ⟨key, message, rfl⟩ := warnings n member
    simp [Note.isScanned, Note.filtered?, Note.failure?]

omit [Record ρ] in
theorem views_of_response (seconds : Float) (key : String) (a : Response ρ)
    (warnings : ∀ n ∈ notesOf a.actions, ∃ key message, n = Note.warning key message) :
    (a.notes seconds key).countP Note.isScanned = [a].countP (·.outcome.isScanned) ∧
      (a.notes seconds key).filterMap Note.filtered? = (a.outcome.filtered? key).toList ∧
      (a.notes seconds key).filterMap Note.warning? = a.warnings ∧
      (a.notes seconds key).filterMap Note.failure? =
        (a.outcome.failure? seconds key).toList := by
  obtain ⟨scanned, filtered, failures⟩ := views_of_warnings _ warnings
  cases outcome : a.outcome <;>
    simp [Response.notes, Response.warnings, Outcome.note, Outcome.isScanned, Outcome.filtered?,
      Outcome.failure?, Note.isScanned, Note.filtered?, Note.warning?, Note.failure?, outcome,
      scanned, filtered, failures, Failure.ofError_eq, Failure.ofText]

theorem views_of_answers (seconds : Float) (answers : List (ρ × Response ρ))
    (warnings : ∀ a ∈ answers, ∀ n ∈ notesOf a.2.actions, ∃ key message,
      n = Note.warning key message) :
    let notes := answers.flatMap fun a => a.2.notes seconds (Record.key a.1)
    notes.countP Note.isScanned = answers.countP (fun a => a.2.outcome.isScanned) ∧
      notes.filterMap Note.filtered? =
        answers.filterMap (fun a => a.2.outcome.filtered? (Record.key a.1)) ∧
      notes.filterMap Note.warning? = answers.flatMap (fun a => a.2.warnings) ∧
      notes.filterMap Note.failure? =
        answers.filterMap (fun a => a.2.outcome.failure? seconds (Record.key a.1)) := by
  induction answers with
  | nil => exact ⟨rfl, rfl, rfl, rfl⟩
  | cons a rest ih =>
    obtain ⟨scanned, filtered, warned, failed⟩ :=
      views_of_response seconds (Record.key a.1) a.2 (warnings a List.mem_cons_self)
    obtain ⟨scanned', filtered', warned', failed'⟩ :=
      ih fun b member => warnings b (List.mem_cons_of_mem a member)
    simp only [List.flatMap_cons, List.countP_append, List.filterMap_append, scanned, filtered,
      warned, failed, scanned', filtered', warned', failed']
    refine ⟨?_, ?_, trivial, ?_⟩
    · simp [List.countP_cons, Nat.add_comm]
    · cases entry : a.2.outcome.filtered? (Record.key a.1) <;> simp [entry]
    · cases entry : a.2.outcome.failure? seconds (Record.key a.1) <;> simp [entry]

omit [Record ρ] in
theorem answers_warn (s : RecordStep ρ) (role : RecordRole) (rs : List ρ)
    (warnsOnly : (Step.record role s).WarnsOnly) :
    ∀ a ∈ s.answers rs, ∀ n ∈ notesOf a.2.actions, ∃ key message, n = .warning key message := by
  intro a member n noted
  obtain ⟨before, r, answer⟩ := mem_responses s [] rs a.2 (List.of_mem_zip member).2
  exact warnsOnly before r n (answer ▸ noted)

theorem afterAll_start (startedAt : Instant) (seconds : Float) (place : Nat) (s : Step ρ)
    (rs : List ρ) (warnsOnly : s.WarnsOnly) :
    (Station.start startedAt place s).afterAll seconds rs =
      ⟨place, s, s.handed rs, s.statusAfter startedAt seconds rs⟩ := by
  cases s with
  | bulk sink => exact afterAll_bulk seconds place sink [] _ rs
  | record role s =>
    have views := views_of_answers seconds (s.answers rs) (answers_warn s role rs warnsOnly)
    obtain ⟨scanned, filtered, warned, failed⟩ := views
    have notes : s.notes seconds [] rs =
        (s.answers rs).flatMap fun a => a.2.notes seconds (Record.key a.1) := rfl
    rw [Station.start, afterAll_record, Status.noteAll_eq, notes, scanned, filtered, warned, failed]
    simp [Status.start, Step.handed, Step.statusAfter, Step.name, Step.role]

theorem passedOn_start (startedAt : Instant) (seconds : Float) (place : Nat) (s : Step ρ)
    (rs : List ρ) : (Station.start startedAt place s).passedOn seconds rs = s.outputs rs := by
  cases s with
  | bulk sink => exact passedOn_bulk seconds place sink [] _ rs
  | record role s => exact passedOn_record seconds place role s [] _ rs

theorem sweep_startAll (startedAt : Instant) (seconds : Float) (place : Nat)
    (steps : List (Step ρ)) (rs : List ρ) (warnsOnly : ∀ s ∈ steps, s.WarnsOnly) :
    sweep seconds (steps.mapIdx fun i s => Station.start startedAt (i + place) s) rs =
      breadthFirst startedAt seconds place steps rs := by
  induction steps generalizing place rs with
  | nil => rfl
  | cons s rest ih =>
    have shifted : (fun i => Station.start (ρ := ρ) startedAt (i + 1 + place)) =
        fun i => Station.start startedAt (i + (place + 1)) := by
      funext i
      rw [Nat.add_assoc, Nat.add_comm 1]
    simp only [List.mapIdx_cons, Nat.zero_add, sweep, breadthFirst, passedOn_start, shifted,
      afterAll_start startedAt seconds place s rs (warnsOnly s List.mem_cons_self),
      ih (place + 1) _ fun t member => warnsOnly t (List.mem_cons_of_mem s member)]

theorem breadthFirst_steps (startedAt : Instant) (seconds : Float) (place : Nat)
    (steps : List (Step ρ)) (rs : List ρ) :
    (breadthFirst startedAt seconds place steps rs).map (·.step) = steps := by
  induction steps generalizing place rs with
  | nil => rfl
  | cons s rest ih => simp [breadthFirst, ih]

omit [Record ρ] in
theorem publish_getElem? (staged : List String) (stations : List (Station ρ)) (p : Published ρ)
    (published : publish staged stations = some p) (i : Nat) (s : Station ρ) (role : RecordRole)
    (step : RecordStep ρ) (at_i : stations[i]? = some s) (record : s.step = .record role step) :
    p.stations[i]? = some s := by
  obtain ⟨before, t, sink, after, rfl, isBulk, _, rfl⟩ :=
    publish_cases staged stations p published
  rw [List.getElem?_append] at at_i ⊢
  split at at_i
  · rename_i inside
    rw [if_pos inside]
    exact at_i
  · rename_i outside
    rw [if_neg outside]
    cases place : i - before.length with
    | zero =>
      have same : t = s := by simpa [place] using at_i
      rw [same, record] at isBulk
      cases isBulk
    | succ n => simpa [place] using at_i

theorem run_record_station (s : Source ρ) (runId : String) (seconds : Float) (g : Progress ρ)
    (i : Nat) (t : Station ρ) (role : RecordRole) (step : RecordStep ρ)
    (at_i : (s.drain seconds g).progress.stations[i]? = some t)
    (record : t.step = .record role step) :
    (s.run runId seconds g).progress.stations[i]? = some t := by
  rcases run_cases s runId seconds g with ⟨_, _, ended⟩ | ⟨_, went⟩
  · rw [ended]
    exact at_i
  · rw [went, runBulkSink]
    split
    · exact at_i
    · rename_i p published
      exact publish_getElem? _ _ p published i t role step at_i record

/-- The loop refines the breadth-first reference: after the source has been drained every station
is as the reference has it, and what the bulk sink does after that leaves the record steps alone.
Nothing is assumed about how the source stops, nor about what the steps answer. -/
theorem drain_refines_breadthFirst (s : Source ρ) (steps : List (Step ρ)) (startedAt : Instant)
    (seconds : Float) (warnsOnly : ∀ t ∈ steps, t.WarnsOnly) :
    let g : Progress ρ := ⟨.start s.name .source startedAt, Station.startAll startedAt steps⟩
    let reference := breadthFirst startedAt seconds 1 steps s.records
    (s.drain seconds g).progress.stations = reference ∧
      ∀ (runId : String) (i : Nat) (role : RecordRole) (step : RecordStep ρ),
        steps[i]? = some (.record role step) →
        (s.run runId seconds g).progress.stations[i]? = reference[i]? := by
  intro g reference
  have drained : (s.drain seconds g).progress.stations = reference := by
    rw [Source.drain, drain_stations]
    exact sweep_startAll startedAt seconds 1 steps s.records warnsOnly
  refine ⟨drained, ?_⟩
  intro runId i role step at_i
  have known : reference[i]?.map (·.step) = some (.record role step) := by
    rw [← List.getElem?_map, breadthFirst_steps, at_i]
  obtain ⟨t, found, record⟩ := Option.map_eq_some_iff.mp known
  rw [found]
  exact run_record_station s runId seconds g i t role step (drained ▸ found) record

theorem respond_warns (r : ρ) (act : Scripted.Act ρ) :
    ∀ n ∈ notesOf (act.respond r).actions, ∃ key message, n = .warning key message := by
  induction act with
  | warn message act ih =>
    intro n member
    rcases List.mem_cons.mp member with here | later
    · exact ⟨_, _, here⟩
    · exact ih n later
  | stage goesOn => intro n member; cases member
  | awaitProgress => intro n member; cases member
  | _ => intro n member; cases member

theorem script_warnsOnly (role : RecordRole) (name : String) (s : Scripted.Script ρ)
    (onClose : Reply) : (Step.record role (s.step name onClose)).WarnsOnly :=
  fun _ r => respond_warns r _

def lossySource : Source String where
  name := "crm"
  pulls :=
    [⟨[], .ok (.record "a")⟩, ⟨[], .ok (.filtered "b" "archived")⟩, ⟨[], .ok (.record "c")⟩,
      ⟨[.note (.warning "d" "late")], .ok (.record "d")⟩,
      ⟨[], .error (.failed (.ofMessage "lost"))⟩, ⟨[], .ok (.record "e")⟩]
  rest := .exhausted
  onClose := .done

def mixedSteps : List (Step String) :=
  [.record .processor
      ((Scripted.Script.mk [] [("a", .panic (.text "boom")), ("c", .warn "odd" (.append "!"))]
        .next).step "clean" .done),
    .bulk (Scripted.bulkSink "publish" [.scanStaged] .done),
    .record .sink ((Scripted.Script.mk [.filter "first"] [] .consume).step "load" .done)]

theorem mixedSteps_warnOnly : ∀ t ∈ mixedSteps, t.WarnsOnly := by
  simp only [mixedSteps, List.mem_cons, List.not_mem_nil, or_false]
  rintro t (rfl | rfl | rfl)
  · exact script_warnsOnly _ _ _ _
  · trivial
  · exact script_warnsOnly _ _ _ _

theorem drain_refines_breadthFirst_mixed :
    (∀ t ∈ mixedSteps, t.WarnsOnly) ∧
      (lossySource.drain 0.0 ⟨.start "crm" .source .epoch,
          Station.startAll .epoch mixedSteps⟩).progress.stations.map
        (fun t => (t.received, t.status.counts)) =
        [(["a", "c", "d"], ⟨2, 0, 1, 1⟩), ([], .zero), (["c!", "d"], ⟨1, 1, 0, 0⟩)] := by
  refine ⟨mixedSteps_warnOnly, ?_⟩
  have reference :=
    (drain_refines_breadthFirst lossySource mixedSteps .epoch 0.0 mixedSteps_warnOnly).1
  exact (congrArg _ reference).trans rfl

end Intake
