import Intake.Proofs.Dates
import Intake.Proofs.RoundTrip
import Intake.Report

/-!
What is kept of a run is read back as it was: the summary with every entry of every step, and the
report around it. The counters of a step stand among its other members, and each of them is found
under a name of its own.
-/
namespace Intake

open Json (Lookup)
open Json.Shape (Accepts required)

theorem Role.decode_toJson (r : Role) : decode .data (Json.Doc.ofJson r.toJson.normal) = .ok r := by
  cases r <;> rfl

theorem Kind.decode_toJson (k : Kind) : decode .data (Json.Doc.ofJson k.toJson.normal) = .ok k := by
  cases k <;> rfl

theorem RunState.decode_toJson (s : RunState) :
    decode .data (Json.Doc.ofJson s.toJson.normal) = .ok s := by
  cases s <;> rfl

def Instant.Legible (t : Instant) : Prop := parse t.text = .ok t

theorem Instant.decode_toJson {t : Instant} (legible : t.Legible) :
    decode .data (Json.Doc.ofJson t.toJson.normal) = .ok t := by
  have read : parse t.text = .ok t := legible
  simp [toJson, Json.normal, Json.Doc.ofJson, decode, Json.Decode.parsed, Json.Decode.textAs, read,
    Except.mapError, bind, Except.bind]

theorem Failure.decode_toJson {f : Failure} (finite : f.timestamp.isFinite = true) :
    decode .data (Json.Doc.ofJson f.toJson.normal) = .ok f := by
  let l : Lookup := .ofNormal ([("name", .text f.name), ("error", .text f.error)] ++
    Json.given "stackTrace" (f.stackTrace.map .text) ++ [("timestamp", .real f.timestamp)])
  have written : l.find "stackTrace" =
      f.stackTrace.map fun s => Json.Doc.ofJson (Json.text s).normal := by
    simp [l, List.lookup_cons, List.lookup_append, Function.comp_def]
  have trace : (Json.Shape.optional "stackTrace" Json.Decode.text).Accepts l
      (f.stackTrace.map id) :=
    .optional rfl written (fun _ => nofun) Json.Decode.text_normal
  rw [Option.map_id] at trace
  have accepts : shape.Accepts l f :=
    (((Accepts.constant.field
      (.required (by simp [l, List.lookup_cons, List.lookup_append])
        (Json.Decode.text_normal f.name))).field
      (.required (by simp [l, List.lookup_cons, List.lookup_append])
        (Json.Decode.text_normal f.error))).field trace).field
      (.required (by simp [l]) (Json.Decode.real_normal finite))
  exact Json.Decode.record_normal accepts

theorem Filtered.decode_toJson (f : Filtered) :
    decode .data (Json.Doc.ofJson f.toJson.normal) = .ok f := by
  have accepts : shape.Accepts (.ofNormal [("key", .text f.key), ("reason", .text f.reason)]) f :=
    (Accepts.constant.field
      (.required (by simp [List.lookup_cons]) (Json.Decode.text_normal f.key))).field
      (.required (by simp) (Json.Decode.text_normal f.reason))
  exact Json.Decode.record_normal accepts

theorem Warning.decode_toJson (w : Warning) :
    decode .data (Json.Doc.ofJson w.toJson.normal) = .ok w := by
  have accepts : shape.Accepts (.ofNormal [("key", .text w.key), ("message", .text w.message)]) w :=
    (Accepts.constant.field
      (.required (by simp [List.lookup_cons]) (Json.Decode.text_normal w.key))).field
      (.required (by simp) (Json.Decode.text_normal w.message))
  exact Json.Decode.record_normal accepts

namespace Snapshot

def members (s : Snapshot) : List (String × Json) :=
  [("name", .text s.name), ("role", s.role.toJson)] ++ s.counts.members ++
    [("failures", .list (s.failures.map Failure.toJson)),
      ("filteredRecords", .list (s.filtered.map Filtered.toJson)),
      ("warningRecords", .list (s.warnings.map Warning.toJson)),
      ("startedAt", s.startedAt.toJson)]

structure Readable (s : Snapshot) : Prop where
  finite : ∀ f ∈ s.failures, f.timestamp.isFinite = true
  legible : s.startedAt.Legible

theorem members_nodup (s : Snapshot) : (s.members.map Prod.fst).Nodup := by
  simp only [members, Counts.members, List.map_append, List.map_cons, List.map_nil]
  decide

theorem decode_toJson {s : Snapshot} (readable : s.Readable) :
    decode .data (Json.Doc.ofJson s.toJson.normal) = .ok s := by
  let l : Lookup := .ofNormal s.members
  have found (name : String) (v : Json) (among : (name, v) ∈ s.members) :
      l.find name = some (Json.Doc.ofJson v.normal) :=
    Lookup.ofNormal_find_of_mem s.members_nodup among
  have own : shape.Accepts l fun counts =>
      ⟨s.name, s.role, counts, s.failures, s.filtered, s.warnings, s.startedAt⟩ :=
    (((((Accepts.constant.field
      (.required (found "name" _ (by simp [members])) (Json.Decode.text_normal s.name))).field
      (.required (found "role" _ (by simp [members])) s.role.decode_toJson)).field
      (.defaulted (found "failures" _ (by simp [members])) (Json.Decode.list_normal
        fun f among => Failure.decode_toJson (readable.finite f among)))).field
      (.defaulted (found "filteredRecords" _ (by simp [members]))
        (Json.Decode.list_normal fun f _ => f.decode_toJson))).field
      (.defaulted (found "warningRecords" _ (by simp [members]))
        (Json.Decode.list_normal fun w _ => w.decode_toJson))).field
      (.required (found "startedAt" _ (by simp [members])) (Instant.decode_toJson readable.legible))
  have inner (l' : Lookup) (data : l'.setting = .data)
      (same : ∀ field ∈ Counts.shape.fields, l'.find field.1 = l.find field.1) :
      Counts.shape.Accepts l' s.counts := by
    have counted (name : String) (n : Nat) (listed : name ∈ Counts.shape.fields.map Prod.fst)
        (among : (name, Json.nat n) ∈ s.counts.members) :
        (required name Json.Decode.nat).Accepts l' n := by
      obtain ⟨field, owned, rfl⟩ := List.mem_map.mp listed
      have here : l'.find field.1 = some (Json.Doc.ofJson (Json.nat n).normal) :=
        (same field owned).trans (found _ _ (by simp [members, among]))
      refine .required here ?_
      rw [data]
      exact Json.Decode.nat_normal n
    have scanned := counted "scanned" s.counts.scanned (by decide) (by simp [Counts.members])
    have filtered := counted "filtered" s.counts.filtered (by decide) (by simp [Counts.members])
    have warnings := counted "warnings" s.counts.warnings (by decide) (by simp [Counts.members])
    have failed := counted "failed" s.counts.failed (by decide) (by simp [Counts.members])
    exact (((Accepts.constant.field scanned).field filtered).field warnings).field failed
  exact Json.Decode.flattened_normal (by decide) own inner

/-- No two members of a snapshot have one name, so none of them is lost. -/
theorem members_kept (s : Snapshot) :
    s.toJson = .object s.members ∧ (s.members.map Prod.fst).Nodup ∧
      ∀ m ∈ s.members, s.toJson.normal.get? m.1 = some m.2.normal := by
  refine ⟨rfl, s.members_nodup, fun m among => ?_⟩
  change (Json.object s.members).normal.get? m.1 = _
  rw [Json.get?_normal, Json.lookup_reverse_of_mem s.members_nodup among, Option.map_some]

end Snapshot

theorem Summary.decode_toJson {s : Summary} (readable : ∀ step ∈ s.steps, step.Readable) :
    decode .data (Json.Doc.ofJson s.toJson.normal) = .ok s := by
  have accepts : shape.Accepts (.ofNormal [("steps", .list (s.steps.map Snapshot.toJson))]) s :=
    Accepts.constant.field (.required (by simp)
      (Json.Decode.list_normal fun step among => Snapshot.decode_toJson (readable step among)))
  exact Json.Decode.record_normal accepts

namespace Report

structure Readable (r : Report) : Prop where
  started : r.startedAt.Legible
  ended : ∀ t ∈ r.endedAt, t.Legible
  steps : ∀ step ∈ r.steps, step.Readable

def members (r : Report) : List (String × Json) :=
  [("runId", r.runId.toJson), ("pipelineFqn", .text r.pipelineFqn), ("kind", r.kind.toJson),
      ("state", r.state.toJson), ("startedAt", r.startedAt.toJson)] ++
    Json.given "endedAt" (r.endedAt.map Instant.toJson) ++
    [("steps", .list (r.steps.map Snapshot.toJson))]

theorem members_nodup (r : Report) : (r.members.map Prod.fst).Nodup := by
  simp only [members, List.map_append, List.map_cons, List.map_nil]
  cases r.endedAt <;>
    simp only [Option.map_none, Option.map_some, Json.given, List.map_cons, List.map_nil] <;>
    decide

theorem decode_toJson {r : Report} (readable : r.Readable) :
    decode .data (Json.Doc.ofJson r.toJson.normal) = .ok r := by
  let l : Lookup := .ofNormal r.members
  have found (name : String) (v : Json) (among : (name, v) ∈ r.members) :
      l.find name = some (Json.Doc.ofJson v.normal) :=
    Lookup.ofNormal_find_of_mem r.members_nodup among
  have ended : (Json.Shape.optional "endedAt" Instant.decode).Accepts l r.endedAt := by
    have written : l.find "endedAt" =
        r.endedAt.map fun t => Json.Doc.ofJson t.toJson.normal := by
      simp [l, members, List.lookup_cons, List.lookup_append, Function.comp_def]
    cases given : r.endedAt with
    | none => exact .absent (by rw [written, given, Option.map_none])
    | some t =>
      rw [given, Option.map_some] at written
      refine .defaulted written ?_
      exact Json.Decode.option_normal nofun (Instant.decode_toJson (readable.ended t given))
  have accepts : shape.Accepts l r :=
    ((((((Accepts.constant.field
      (.required (found "runId" _ (by simp [members])) r.runId.decode_toJson)).field
      (.required (found "pipelineFqn" _ (by simp [members]))
        (Json.Decode.text_normal r.pipelineFqn))).field
      (.required (found "kind" _ (by simp [members])) r.kind.decode_toJson)).field
      (.required (found "state" _ (by simp [members])) r.state.decode_toJson)).field
      (.required (found "startedAt" _ (by simp [members]))
        (Instant.decode_toJson readable.started))).field ended).field
      (.defaulted (found "steps" _ (by simp [members])) (Json.Decode.list_normal
        fun step among => Snapshot.decode_toJson (readable.steps step among)))
  exact Json.Decode.record_normal accepts

/-- Summaries and reports are read back from what was written for them. No member of a snapshot is
lost to another, the counters among them; and every date within the range has a text of its own. -/
theorem read_back :
    (∀ s : Summary, (∀ step ∈ s.steps, step.Readable) →
      Json.decodeData Summary.decode s.toJson.normal = .ok s) ∧
    (∀ r : Report, r.Readable → Json.decodeData decode r.toJson.normal = .ok r) ∧
    (∀ s : Snapshot, s.toJson = .object s.members ∧ (s.members.map Prod.fst).Nodup ∧
      (∀ m ∈ s.members, s.toJson.normal.get? m.1 = some m.2.normal) ∧
      ∀ m ∈ s.counts.members, m ∈ s.members) ∧
    ∀ t : Instant, t.Proper → t.Legible := by
  refine ⟨fun s readable => Summary.decode_toJson readable,
    fun r readable => decode_toJson readable, fun s => ?_, fun t proper => t.parse_text proper⟩
  obtain ⟨written, distinct, kept⟩ := s.members_kept
  exact ⟨written, distinct, kept, fun m counted => by simp [Snapshot.members, counted]⟩

/-- A step called like one of its counters that failed twice, once with a stack trace, and started
within a leap second. -/
def crowdedStep : Snapshot where
  name := "failed"
  role := .bulkSink
  counts := ⟨18446744073709551615, 0, 7, 2⟩
  failures := [⟨"a", "timeout", some "at main", 1.5⟩, ⟨"failures", "", none, 1700000000.25⟩]
  filtered := [⟨"k", "filtered"⟩]
  warnings := [⟨"k", "warnings"⟩]
  startedAt := ⟨1483228799, 1250000000⟩

def crowdedSample : Report where
  runId := .zero
  pipelineFqn := "scanned"
  kind := .usage
  state := .failed
  startedAt := .epoch
  endedAt := some ⟨253402300800, 500000⟩
  steps := [crowdedStep, ⟨"", .source, .zero, [], [], [], .epoch⟩]

theorem read_back_crowdedSample :
    Json.decodeData Summary.decode (Summary.mk crowdedSample.steps).toJson.normal =
        .ok ⟨crowdedSample.steps⟩ ∧
      Json.decodeData decode crowdedSample.toJson.normal = .ok crowdedSample ∧
      crowdedStep.toJson.normal.get? "failed" = some (.nat 2) := by
  obtain ⟨summaries, reports, members, dates⟩ := read_back
  have epoch : Instant.epoch.Legible := dates _ ⟨by decide, by decide, .inl (by decide)⟩
  have steps : ∀ step ∈ crowdedSample.steps, step.Readable := by
    simp only [crowdedSample, List.forall_mem_cons]
    exact ⟨⟨by decide, dates _ ⟨by decide, by decide, .inr (by decide)⟩⟩, ⟨nofun, epoch⟩, nofun⟩
  have ended : ∀ t ∈ crowdedSample.endedAt, t.Legible := by
    rintro t ⟨⟩
    exact dates _ ⟨by decide, by decide, .inl (by decide)⟩
  obtain ⟨_, _, kept, counted⟩ := members crowdedStep
  exact ⟨summaries ⟨crowdedSample.steps⟩ steps, reports _ ⟨epoch, ended, steps⟩,
    kept _ (counted ("failed", .nat 2) (by simp [Counts.members, crowdedStep]))⟩

end Report

end Intake
