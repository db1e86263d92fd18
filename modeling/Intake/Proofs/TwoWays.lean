import Intake.Config.Codec
import Intake.Proofs.Records

/-!
The two ways to get a configuration. A text in which no object repeats a name gives the same
configuration as the data that is read from it, or neither does; so nothing depends on the order of
its members, on gaps, or on members that no field reads.
-/
namespace Intake

namespace Json

theorem only_eq_null {fields : List (String × (Json → Json))} (v : Json) :
    only fields v = .null ↔ v = .null := by
  refine ⟨only_null, ?_⟩
  rintro rfl
  rfl

theorem ofText_ok {s : String} {v : Json} :
    ofText s = .ok v ↔
      (Doc.ofText s).doc.read .start = .ok v ∧ (Doc.ofText s).trailing = false := by
  rw [ofText, decodeText]
  constructor
  · intro parses
    obtain ⟨read, value, parses⟩ := bind_eq_ok.mp parses
    cases after : (Doc.ofText s).trailing <;> simp only [after] at parses
    · cases parses
      exact ⟨value, rfl⟩
    · cases parses
  · rintro ⟨value, after⟩
    simp only [Decode.any, value, after]
    rfl

theorem decodeText_coincides {α : Type} {dec : Decoder α} {keep : Json → Json}
    (coincides : Coincides dec keep) {s : String} {v v' : Json} (parses : ofText s = .ok v)
    (distinct : (Doc.ofText s).doc.distinct = true) (normal : v'.normal = v')
    (kept : keep v' = keep v) :
    (decodeText dec s).toOption = (decodeData dec v').toOption := by
  obtain ⟨read, after⟩ := ofText_ok.mp parses
  have same := coincides 127 _ v' ⟨normal, v, ⟨Doc.ofText_sound s, distinct, read⟩, kept⟩
  rw [decodeData, ← same, decodeText, toOption_bind]
  simp only [after]
  exact Option.bind_fun_some _

end Json

namespace Config

open Json (Coincides only)

section Fields

def Catalog.known : Json → Json :=
  only [("hostPort", id), ("forceEntityOverwriting", id), ("secretsManagerProvider", id)]

def Source.known : Json → Json :=
  only [("type", id), ("serviceName", id), ("serviceConnection", id), ("sourceConfig", id)]

def Component.known : Json → Json := only [("type", id), ("config", id)]

def Settings.known : Json → Json :=
  only [("loggerLevel", id), ("openMetadataServerConfig", Catalog.known), ("failureTolerance", id),
    ("reportIntervalSeconds", id)]

/-- What is left of the data of a configuration without the members that no field reads. -/
def known : Json → Json :=
  only [("source", Source.known), ("processor", Component.known), ("stage", Component.known),
    ("sink", Component.known), ("bulkSink", Component.known), ("workflowConfig", Settings.known),
    ("pipelineRunId", id), ("ingestionPipelineFQN", id)]

end Fields

open Json.Shape.Coincides (constant required defaulted optional)

theorem Catalog.decode_coincides : Coincides Catalog.decode Catalog.known := by
  refine .record _ ?_ (by decide)
  exact (((constant _).field (defaulted (.textAs _) _)).field (defaulted .bool _)).field
    (defaulted (.textAs _) _)

theorem Source.decode_coincides : Coincides Source.decode Source.known := by
  refine .record _ ?_ (by decide)
  exact ((((constant _).field (required (.textAs _))).field (required (.textAs _))).field
    (optional (Coincides.any.bind _) fun _ => .rfl)).field (defaulted .any _)

theorem Component.decode_coincides : Coincides Component.decode Component.known := by
  refine .record _ ?_ (by decide)
  exact ((constant _).field (required (.textAs _))).field (defaulted .any _)

theorem Settings.decode_coincides : Coincides Settings.decode Settings.known := by
  refine .record _ ?_ (by decide)
  exact ((((constant _).field (defaulted (.variant _) _)).field
    (defaulted Catalog.decode_coincides _)).field (defaulted .real _)).field (defaulted .nat _)

theorem decode_coincides : Coincides decode known := by
  have component (name : String) :
      (Json.Shape.optional name Component.decode).Coincides [(name, Component.known)] :=
    optional Component.decode_coincides Json.only_eq_null
  refine .record _ ?_ (by decide)
  exact ((((((((constant _).field (required Source.decode_coincides)).field
    (component "processor")).field (component "stage")).field (component "sink")).field
    (component "bulkSink")).field (defaulted Settings.decode_coincides _)).field
    (optional (.parsed _ _) fun _ => .rfl)).field (optional (.textAs _) fun _ => .rfl)

section Validated

variable {read : Except Json.Fault Config}

theorem validated_ok {c : Config} :
    validated read = .ok c ↔ read = .ok c ∧ c.validate = .ok () := by
  cases read with
  | error f => simp [validated]
  | ok a =>
    refine Json.seq_eq_ok.trans ?_
    constructor
    · rintro ⟨valid, ⟨⟩⟩
      exact ⟨rfl, valid⟩
    · rintro ⟨⟨⟩, valid⟩
      exact ⟨valid, rfl⟩

theorem validated_error {e : WorkflowError} (refused : validated read = .error e) :
    ∃ f, e = .invalidConfig f := by
  cases read with
  | error f => exact ⟨_, (Except.error.inj refused).symm⟩
  | ok c =>
    simp only [validated, validate] at refused
    cases cause : c.invalid? with
    | none =>
      rw [cause] at refused
      cases refused
    | some cause' =>
      rw [cause] at refused
      exact ⟨_, (Except.error.inj refused).symm⟩

end Validated

theorem ofText_iff_ofData {s : String} {v v' : Json} (parses : Json.ofText s = .ok v)
    (distinct : (Json.Doc.ofText s).doc.distinct = true) (normal : v'.normal = v')
    (kept : known v' = known v) (c : Config) : ofText s = .ok c ↔ ofData v' = .ok c := by
  have same := Json.decodeText_coincides decode_coincides parses distinct normal kept
  rw [ofText, ofData, validated_ok, validated_ok, ← Json.toOption_eq_some, same,
    Json.toOption_eq_some]

/-- A text that repeats no name and the data that it holds give the same configuration, which is
valid; or both are refused. Other texts give the same as this one if they differ in the order of
members, in gaps, or in members that no field reads. -/
theorem ofText_agrees {s : String} {v : Json} (parses : Json.ofText s = .ok v)
    (distinct : (Json.Doc.ofText s).doc.distinct = true) :
    (∀ c, ofText s = .ok c ↔ ofData v = .ok c) ∧
    (∀ c, ofText s = .ok c → c.validate = .ok ()) ∧
    ((∃ e, ofText s = .error e) ∨ (∃ e, ofData v = .error e) →
      ∃ f f', ofText s = .error (.invalidConfig f) ∧ ofData v = .error (.invalidConfig f')) ∧
    (∀ s', (Json.Doc.ofText s').trailing = false →
      (Json.Doc.ofText s).doc.Shuffled (Json.Doc.ofText s').doc →
        Json.ofText s' = .ok v ∧ ∀ c, ofText s' = .ok c ↔ ofText s = .ok c) ∧
    (∀ s', Json.Respaced s s' → ofText s' = ofText s) ∧
    ∀ s' v', Json.ofText s' = .ok v' → (Json.Doc.ofText s').doc.distinct = true →
      known v' = known v → ∀ c, ofText s' = .ok c ↔ ofText s = .ok c := by
  obtain ⟨read, after⟩ := Json.ofText_ok.mp parses
  have normal : v.normal = v := (Json.Doc.ofText_sound s).read_normal read
  have same := ofText_iff_ofData parses distinct normal rfl
  refine ⟨same, fun c accepted => (validated_ok.mp accepted).2, ?_, ?_, ?_, ?_⟩
  · intro refused
    cases text : ofText s with
    | ok c =>
      have data := (same c).mp text
      simp [text, data] at refused
    | error e =>
      cases data : ofData v with
      | ok c => cases text.symm.trans ((same c).mpr data)
      | error e' =>
        -- refused on both sides, though not always for the same fault
        obtain ⟨f, rfl⟩ := validated_error text
        obtain ⟨f', rfl⟩ := validated_error data
        exact ⟨f, f', rfl, rfl⟩
  · intro s' after' shuffled
    obtain ⟨distinct', read'⟩ := shuffled.kept distinct read
    have parses' : Json.ofText s' = .ok v := Json.ofText_ok.mpr ⟨read', after'⟩
    exact ⟨parses', fun c => (ofText_iff_ofData parses' distinct' normal rfl c).trans (same c).symm⟩
  · intro s' respaced
    rw [ofText, Json.decodeText, Json.Doc.ofText, respaced.tokens_eq]
    rfl
  · intro s' v' parses' distinct' kept c
    exact (ofText_iff_ofData parses' distinct' normal kept.symm c).trans (same c).symm

def plainText : String :=
  "\x7b\"source\":\x7b\"type\":\"dbt\",\"serviceName\":\"x\"\x7d,\"sink\":null\x7d"

def plainData : Json :=
  .object [("sink", .null),
    ("source", .object [("serviceName", .text "x"), ("type", .text "dbt")])]

def shuffledText : String :=
  "\x7b\"sink\":null,\"source\":\x7b\"type\":\"dbt\",\"serviceName\":\"x\"\x7d\x7d"

def spacedText : String :=
  "\x7b \n\"source\":\x7b\"type\":\"dbt\",\"serviceName\":\"x\"\x7d,\"sink\":null\x7d"

def paddedText : String :=
  "\x7b\"source\":\x7b\"type\":\"dbt\",\"serviceName\":\"x\",\"a\":1\x7d,\"b\":[],\"sink\":null\x7d"

def paddedData : Json :=
  .object [("b", .list []), ("sink", .null),
    ("source", .object [("a", .nat 1), ("serviceName", .text "x"), ("type", .text "dbt")])]

theorem plainText_parses : Json.ofText plainText = .ok plainData := by
  simp only [Json.ofText, Json.decodeText, Json.Doc.ofText, Json.tokens, plainText,
    String.reduceToList]
  rfl

theorem plainText_distinct : (Json.Doc.ofText plainText).doc.distinct = true := by
  simp only [Json.Doc.ofText, Json.tokens, plainText, String.reduceToList]
  rfl

theorem paddedText_parses : Json.ofText paddedText = .ok paddedData := by
  simp only [Json.ofText, Json.decodeText, Json.Doc.ofText, Json.tokens, paddedText,
    String.reduceToList]
  rfl

theorem ofText_agrees_plainText :
    ofText plainText = .ok (minimal "dbt" "x") ∧ ofData plainData = .ok (minimal "dbt" "x") ∧
      (minimal "dbt" "x").validate = .ok () ∧
      ofText shuffledText = .ok (minimal "dbt" "x") ∧
      ofText spacedText = .ok (minimal "dbt" "x") ∧
      ofText paddedText = .ok (minimal "dbt" "x") ∧
      ∃ f f', ofText "[]" = .error (.invalidConfig f) ∧
        ofData (.list []) = .error (.invalidConfig f') := by
  obtain ⟨agree, valid, _, shuffled, spaced, padded⟩ :=
    ofText_agrees plainText_parses plainText_distinct
  have read : ofText plainText = .ok (minimal "dbt" "x") := (agree _).mpr rfl
  have order : (Json.Doc.ofText plainText).doc.Shuffled (Json.Doc.ofText shuffledText).doc := by
    simp only [Json.Doc.ofText, Json.tokens, plainText, shuffledText, String.reduceToList]
    exact .members (.swap _ _ _)
  have whole : (Json.Doc.ofText shuffledText).trailing = false := by
    simp only [Json.Doc.ofText, Json.tokens, shuffledText, String.reduceToList]
    rfl
  have gaps : Json.Respaced plainText spacedText := by
    refine .widened ['\x7b'] [' ', '\n'] (plainText.toList.drop 1) ?_ ?_ rfl trivial ?_
    · simp [plainText]
    · simp [plainText, spacedText]
    · exact List.all_eq_true.mp (by decide)
  have names : (Json.Doc.ofText paddedText).doc.distinct = true := by
    simp only [Json.Doc.ofText, Json.tokens, paddedText, String.reduceToList]
    rfl
  have empty : Json.ofText "[]" = .ok (.list []) := by
    simp only [Json.ofText, Json.decodeText, Json.Doc.ofText, Json.tokens, String.reduceToList]
    rfl
  have refused := (ofText_agrees empty (by decide +kernel)).2.2.1 (.inr ⟨_, rfl⟩)
  exact ⟨read, (agree _).mp read, valid _ read, ((shuffled _ whole order).2 _).mpr read,
    (spaced _ gaps).trans read, (padded _ _ paddedText_parses names rfl _).mpr read, refused⟩

end Config

end Intake
