import Intake.Proofs.Identifiers
import Intake.Proofs.Percent
import Intake.Proofs.Shapes

/-!
Reading undoes writing for a whole configuration. What a valid configuration is written as is read
as the configuration itself, but for a connection that holds nothing, which is not told from none.
-/
namespace Intake

open Json (Lookup)
open Json.Shape (Accepts)

theorem Uuid.decode_toJson (u : Uuid) : decode .data (Json.Doc.ofJson u.toJson.normal) = .ok u := by
  simp [toJson, Json.normal, Json.Doc.ofJson, decode, Json.Decode.parsed, Json.Decode.textAs,
    parse_text, Except.mapError, bind, Except.bind]

theorem Severity.decode_toJson (s : Severity) :
    decode .data (Json.Doc.ofJson s.toJson.normal) = .ok s := by
  cases s <;> rfl

namespace Connection

def normal (c : Connection) : Connection := ⟨c.document.normal⟩

def present? : Connection → Option Connection
  | ⟨.null⟩ => none
  | c => some c

theorem mem_present? {c d : Connection} (present : d ∈ c.present?) : d = c := by
  obtain ⟨document⟩ := c
  cases document <;> cases present <;> rfl

theorem present?_bind (c : Connection) : c.present?.bind present? = c.present? := by
  obtain ⟨document⟩ := c
  cases document <;> rfl

theorem normal_isEmpty (c : Connection) : c.normal.isEmpty = c.isEmpty := by
  obtain ⟨document⟩ := c
  cases document with
  | object members =>
    simp only [normal, isEmpty, Json.normal, Json.sorted_isEmpty, Json.normalMembers_eq,
      List.isEmpty_map]
  | _ => rfl

theorem present?_isEmpty (c : Connection) :
    (match c.present? with | some d => !d.isEmpty | none => false) = !c.isEmpty := by
  obtain ⟨document⟩ := c
  cases document <;> rfl

theorem decode_toJson (c : Connection) :
    decode .data (Json.Doc.ofJson c.toJson.normal) = .ok c.normal := by
  have read := Json.Decode.any_normal c.document
  simp only [decode, toJson, read]
  rfl

/-- Where a connection may be left out, one whose document is null is. -/
theorem option_toJson (c : Connection) :
    Json.Decode.option decode .data (Json.Doc.ofJson c.toJson.normal) =
      .ok c.normal.present? := by
  obtain ⟨document⟩ := c
  cases document with
  | null => rfl
  | bool b => rfl
  | number n => rfl
  | text s => rfl
  | list items => exact Json.Decode.option_normal nofun (decode_toJson ⟨.list items⟩)
  | object members => exact Json.Decode.option_normal nofun (decode_toJson ⟨.object members⟩)

end Connection

namespace Config

theorem Catalog.decode_toJson (c : Catalog) :
    decode .data (Json.Doc.ofJson c.toJson.normal) = .ok c := by
  have accepts : shape.Accepts (.ofNormal [("hostPort", .text c.hostPort),
      ("forceEntityOverwriting", .bool c.forceEntityOverwriting),
      ("secretsManagerProvider", .text c.secretsManagerProvider)]) c :=
    ((Accepts.constant.field
      (.defaulted (by simp [List.lookup_cons]) (Json.Decode.text_normal c.hostPort))).field
      (.defaulted (by simp [List.lookup_cons])
        (Json.Decode.bool_normal c.forceEntityOverwriting))).field
      (.defaulted (by simp) (Json.Decode.text_normal c.secretsManagerProvider))
  exact Json.Decode.record_normal accepts

theorem Settings.decode_toJson {s : Settings} (finite : s.failureTolerance.isFinite = true) :
    decode .data (Json.Doc.ofJson s.toJson.normal) = .ok s := by
  have accepts : shape.Accepts (.ofNormal [("loggerLevel", s.loggerLevel.toJson),
      ("openMetadataServerConfig", s.catalog.toJson),
      ("failureTolerance", .real s.failureTolerance),
      ("reportIntervalSeconds", .nat s.reportIntervalSeconds)]) s :=
    (((Accepts.constant.field
      (.defaulted (by simp [List.lookup_cons]) s.loggerLevel.decode_toJson)).field
      (.defaulted (by simp [List.lookup_cons]) s.catalog.decode_toJson)).field
      (.defaulted (by simp [List.lookup_cons]) (Json.Decode.real_normal finite))).field
      (.defaulted (by simp) (Json.Decode.nat_normal s.reportIntervalSeconds))
  exact Json.Decode.record_normal accepts

def Component.normal (c : Component) : Component := { c with settings := c.settings.normal }

theorem Component.decode_toJson (c : Component) :
    decode .data (Json.Doc.ofJson c.toJson.normal) = .ok c.normal := by
  have accepts : shape.Accepts
      (.ofNormal [("type", .text c.componentType), ("config", c.settings)]) c.normal :=
    (Accepts.constant.field
      (.required (by simp [List.lookup_cons]) (Json.Decode.text_normal c.componentType))).field
      (.defaulted (by simp) (Json.Decode.any_normal c.settings))
  exact Json.Decode.record_normal accepts

/-- What is read back for a source: documents in normal form, and a connection only if there is
something in it but null. -/
def Source.readBack (s : Source) : Source :=
  { s with
    connection := s.connection.bind fun c => c.normal.present?
    settings := s.settings.normal }

theorem Source.decode_toJson (s : Source) :
    decode .data (Json.Doc.ofJson s.toJson.normal) = .ok s.readBack := by
  let l : Lookup := .ofNormal
    ([("type", .text s.sourceType), ("serviceName", .text s.serviceName)] ++
      Json.given "serviceConnection" (s.connection.map Connection.toJson) ++
      [("sourceConfig", s.settings)])
  have connection : (Json.Shape.optional "serviceConnection" Connection.decode).Accepts l
      s.readBack.connection := by
    have written : l.find "serviceConnection" =
        s.connection.map fun c => Json.Doc.ofJson c.toJson.normal := by
      simp [l, List.lookup_cons, List.lookup_append, Function.comp_def]
    cases given : s.connection with
    | none =>
      rw [readBack, given]
      exact .absent (by rw [written, given]; rfl)
    | some c =>
      rw [readBack, given]
      exact .defaulted (by rw [written, given]; rfl) c.option_toJson
  have accepts : shape.Accepts l s.readBack :=
    (((Accepts.constant.field
      (.required (by simp [l, List.lookup_cons, List.lookup_append])
        (Json.Decode.text_normal s.sourceType))).field
      (.required (by simp [l, List.lookup_cons, List.lookup_append])
        (Json.Decode.text_normal s.serviceName))).field connection).field
      (.defaulted (by simp [l]) (Json.Decode.any_normal s.settings))
  exact Json.Decode.record_normal accepts

def readBack (c : Config) : Config :=
  { c with
    source := c.source.readBack
    processor := c.processor.map Component.normal
    stage := c.stage.map Component.normal
    sink := c.sink.map Component.normal
    bulkSink := c.bulkSink.map Component.normal }

section Reading

variable {c : Config}

theorem decode_toJson (finite : c.settings.failureTolerance.isFinite = true) :
    decode .data (Json.Doc.ofJson c.toJson.normal) = .ok c.readBack := by
  let l : Lookup := .ofNormal ([("source", c.source.toJson)] ++
    Json.given "processor" (c.processor.map Component.toJson) ++
    Json.given "stage" (c.stage.map Component.toJson) ++
    Json.given "sink" (c.sink.map Component.toJson) ++
    Json.given "bulkSink" (c.bulkSink.map Component.toJson) ++
    [("workflowConfig", c.settings.toJson)] ++
    Json.given "pipelineRunId" (c.runId.map Uuid.toJson) ++
    Json.given "ingestionPipelineFQN" (c.pipelineFqn.map .text))
  have source : (Json.Shape.required "source" Source.decode).Accepts l c.source.readBack :=
    .required (by simp [l, List.lookup_cons, List.lookup_append]) c.source.decode_toJson
  have settings : (Json.Shape.defaulted "workflowConfig" Settings.decode .default).Accepts l
      c.settings :=
    .defaulted (by simp [l, List.lookup_append]) (Settings.decode_toJson finite)
  have component (name : String) (given : Option Component)
      (written : l.find name = given.map fun x => Json.Doc.ofJson x.toJson.normal) :
      (Json.Shape.optional name Component.decode).Accepts l (given.map Component.normal) :=
    .optional rfl written (fun _ => nofun) Component.decode_toJson
  have processor := component "processor" c.processor
    (by simp [l, List.lookup_cons, List.lookup_append, Function.comp_def])
  have stage := component "stage" c.stage
    (by simp [l, List.lookup_cons, List.lookup_append, Function.comp_def])
  have sink := component "sink" c.sink
    (by simp [l, List.lookup_cons, List.lookup_append, Function.comp_def])
  have bulkSink := component "bulkSink" c.bulkSink
    (by simp [l, List.lookup_cons, List.lookup_append, Function.comp_def])
  have runIdWritten : l.find "pipelineRunId" =
      c.runId.map fun u => Json.Doc.ofJson u.toJson.normal := by
    simp [l, List.lookup_cons, List.lookup_append, Function.comp_def]
  have runId : (Json.Shape.optional "pipelineRunId" Uuid.decode).Accepts l (c.runId.map id) :=
    .optional rfl runIdWritten (fun _ => nofun) Uuid.decode_toJson
  have nameWritten : l.find "ingestionPipelineFQN" =
      c.pipelineFqn.map fun s => Json.Doc.ofJson (Json.text s).normal := by
    simp [l, List.lookup_cons, List.lookup_append, Function.comp_def]
  have name : (Json.Shape.optional "ingestionPipelineFQN" Json.Decode.text).Accepts l
      (c.pipelineFqn.map id) :=
    .optional rfl nameWritten (fun _ => nofun) Json.Decode.text_normal
  rw [Option.map_id] at runId name
  have accepts : shape.Accepts l c.readBack :=
    (((((((Accepts.constant.field source).field processor).field stage).field sink).field
      bulkSink).field settings).field runId).field name
  exact Json.Decode.record_normal accepts

end Reading

/-- Every free-form document of the configuration is in normal form, as data is that was read. -/
structure Normal (c : Config) : Prop where
  settings : c.source.settings.normal = c.source.settings
  connection : ∀ x ∈ c.source.connection, x.normal = x
  processor : ∀ x ∈ c.processor, x.normal = x
  stage : ∀ x ∈ c.stage, x.normal = x
  sink : ∀ x ∈ c.sink, x.normal = x
  bulkSink : ∀ x ∈ c.bulkSink, x.normal = x

def withoutNull (c : Config) : Config :=
  { c with
    source := { c.source with connection := c.source.connection.bind Connection.present? } }

theorem map_normal {given : Option Component} (normal : ∀ x ∈ given, x.normal = x) :
    given.map Component.normal = given := by
  cases given with
  | none => rfl
  | some x => rw [Option.map_some, normal x rfl]

section Preserving

variable (c : Config)

theorem Normal.readBack {c : Config} (normal : c.Normal) : c.readBack = c.withoutNull := by
  have connection : (c.source.connection.bind fun x => x.normal.present?) =
      c.source.connection.bind Connection.present? := by
    cases given : c.source.connection with
    | none => rfl
    | some x => rw [Option.bind_some, normal.connection x given, Option.bind_some]
  rw [Config.readBack, Source.readBack, connection, normal.settings, map_normal normal.processor,
    map_normal normal.stage, map_normal normal.sink, map_normal normal.bulkSink]
  rfl

theorem Component.normal_normal (x : Component) : x.normal.normal = x.normal := by
  rw [normal, normal, Json.normal_normal]

theorem mem_map_normal {given : Option Component} {x : Component}
    (among : x ∈ given.map Component.normal) : x.normal = x := by
  obtain ⟨y, _, rfl⟩ := Option.map_eq_some_iff.mp among
  exact y.normal_normal

theorem readBack_normal : c.readBack.Normal := by
  refine ⟨Json.normal_normal _, ?_, fun _ => mem_map_normal, fun _ => mem_map_normal,
    fun _ => mem_map_normal, fun _ => mem_map_normal⟩
  intro x among
  obtain ⟨y, _, present⟩ := Option.bind_eq_some_iff.mp among
  rw [Connection.mem_present? present, Connection.normal, Connection.normal, Json.normal_normal]

theorem readBack_readBack : c.readBack.readBack = c.readBack := by
  have kept : c.readBack.source.connection.bind Connection.present? =
      c.readBack.source.connection := by
    simp only [readBack, Source.readBack, Option.bind_assoc, Connection.present?_bind]
  rw [(readBack_normal c).readBack, withoutNull, kept]

theorem readBack_hasConnection : c.readBack.source.hasConnection = c.source.hasConnection := by
  cases given : c.source.connection with
  | none => simp [readBack, Source.readBack, Source.hasConnection, given]
  | some x =>
    simp only [readBack, Source.readBack, Source.hasConnection, given, Option.bind_some]
    rw [← x.normal_isEmpty]
    exact x.normal.present?_isEmpty

theorem ofData_of_finite (finite : c.settings.failureTolerance.isFinite = true) :
    ofData c.toJson.normal = c.validate.map fun _ => c.readBack := by
  have same : c.readBack.validate = c.validate := rfl
  rw [ofData, Json.decodeData, decode_toJson finite, validated, same]
  cases c.validate <;> rfl

/-- Reading undoes writing. A valid configuration comes back as it was, but for a connection that is
null; what it says about the run is the same, and to write and read it once more changes nothing.
One that is not valid is refused for the same reason as before, as long as its tolerance can be
written. -/
theorem ofData_toJson :
    (c.validate = .ok () →
      ofData c.toJson.normal = .ok c.readBack ∧
      (c.Normal → c.readBack = c.withoutNull) ∧
      c.readBack.source.hasConnection = c.source.hasConnection ∧
      c.readBack.tolerance = c.tolerance ∧
      c.readBack.reportInterval = c.reportInterval ∧
      c.readBack.runId = c.runId ∧ c.readBack.pipelineFqn = c.pipelineFqn ∧
      ofData c.readBack.toJson.normal = .ok c.readBack) ∧
    ∀ e, c.validate = .error e → c.settings.failureTolerance.isFinite = true →
      ofData c.toJson.normal = .error e := by
  refine ⟨fun valid => ?_, fun e invalid finite => ?_⟩
  · obtain ⟨⟨low, high⟩, _⟩ := validate_ok valid
    have finite := float_finite_of_range low high
    have read := ofData_of_finite c finite
    have again := ofData_of_finite c.readBack finite
    have same : c.readBack.validate = c.validate := rfl
    rw [valid] at read
    rw [same, valid, readBack_readBack] at again
    exact ⟨read, Normal.readBack, readBack_hasConnection c, rfl, rfl, rfl, rfl, again⟩
  · rw [ofData_of_finite c finite, invalid]
    rfl

end Preserving

def nullSample : Config :=
  { minimal "mysql" "local_mysql" with
    source := ⟨"mysql", "local_mysql", some ⟨.null⟩, .object [("only", .null)]⟩
    processor := some ⟨"upper", .list [.null, .bool true]⟩
    runId := some .zero }

theorem nullSample_normal : nullSample.Normal := by
  refine ⟨rfl, ?_, ?_, nofun, nofun, nofun⟩
  · rintro _ ⟨⟩
    rfl
  · rintro _ ⟨⟩
    rfl

theorem ofData_toJson_nullSample :
    nullSample.source.connection = some ⟨.null⟩ ∧
      ofData nullSample.toJson.normal =
        .ok { nullSample with source := { nullSample.source with connection := none } } ∧
      ofData (minimal "mysql" " ").toJson.normal =
        .error (.invalidConfig (.invalid .emptyServiceName)) := by
  have valid : nullSample.validate = .ok () := rfl
  obtain ⟨read, same, _⟩ := (ofData_toJson nullSample).1 valid
  refine ⟨rfl, ?_, ?_⟩
  · rw [read, same nullSample_normal]
    rfl
  · exact (ofData_toJson (minimal "mysql" " ")).2 _ rfl rfl

end Config

end Intake
