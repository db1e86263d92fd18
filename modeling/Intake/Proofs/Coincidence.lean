import Intake.Proofs.Documents
import Intake.Proofs.Shapes

/-!
Readers of text and of data. A reader takes a text if and only if it takes the data of the text, and
reads the same from both; and it does so for any other data that differs in what it passes over.
-/
namespace Intake.Json

section Outcomes

variable {ε α β : Type}

theorem toOption_bind (x : Except ε α) (f : α → Except ε β) :
    (x >>= f).toOption = x.toOption.bind fun a => (f a).toOption := by
  cases x <;> rfl

theorem toOption_ok (a : α) : (Except.ok a : Except ε α).toOption = some a := rfl

theorem toOption_error (e : ε) : (Except.error e : Except ε α).toOption = none := rfl

theorem toOption_map (x : Except ε α) (f : α → β) : (x.map f).toOption = x.toOption.map f := by
  cases x <;> rfl

theorem toOption_eq_some {x : Except ε α} {a : α} : x.toOption = some a ↔ x = .ok a := by
  cases x <;> simp [Except.toOption]

theorem toOption_mismatch (expected : String) (d : Doc) :
    (mismatch (α := α) expected d).toOption = none := by
  rw [mismatch, toOption_bind]
  cases d.found <;> rfl

end Outcomes

section Keeping

def keepItems : List (Json → Json) → List Json → List Json
  | keep :: keeps, v :: rest => keep v :: keepItems keeps rest
  | _, rest => rest

/-- What is left of a record when it loses the members that are not among its fields. Of the value
of each field is left what that field keeps. -/
def only (fields : List (String × (Json → Json))) : Json → Json
  | .object members => .object (members.filterMap fun m =>
      (fields.lookup m.1).map fun keep => (m.1, keep m.2))
  | .list items => .list (keepItems (fields.map Prod.snd) items)
  | v => v

variable {fields : List (String × (Json → Json))}

theorem only_null {v : Json} (null : only fields v = .null) : v = .null := by
  cases v <;> first | rfl | cases null

end Keeping

def Alike (keep : Json → Json) (levels : Nat) (d : Doc) (v : Json) : Prop :=
  v.normal = v ∧ ∃ read, d.Holds levels read ∧ keep v = keep read

theorem Alike.holds {levels : Nat} {d : Doc} {v : Json} (alike : Alike id levels d v) :
    v.normal = v ∧ d.Holds levels v := by
  obtain ⟨normal, _, holds, rfl⟩ := alike
  exact ⟨normal, holds⟩

/-- The reader takes both of two values that are alike, and reads the same from them, or neither. -/
def Coincides {α : Type} (dec : Decoder α) (keep : Json → Json) : Prop :=
  ∀ levels d v, Alike keep levels d v →
    (dec (.text levels) d).toOption = (dec .data (.ofJson v)).toOption

namespace Coincides

variable {α β : Type} {dec : Decoder α} {keep : Json → Json}

theorem bind (coincides : Coincides dec keep) (f : α → Except Fault β) :
    Coincides (fun s d => dec s d >>= f) keep := by
  intro levels d v alike
  simp only [toOption_bind, coincides levels d v alike]

theorem checking (coincides : Coincides dec keep) : Coincides (Shape.checking dec) keep := by
  intro levels d v alike
  simp only [Shape.checking, toOption_map, coincides levels d v alike]

/-- A reader that takes neither lists nor objects does not ask where the rest comes from. -/
theorem of_atoms {dec : Decoder α}
    (same : ∀ levels v, dec (.text levels) (.ofJson v) = dec .data (.ofJson v))
    (lists : ∀ s items ending, (dec s (.list items ending)).toOption = none)
    (objects : ∀ s members ending, (dec s (.object members ending)).toOption = none) :
    Coincides dec id := by
  intro levels d v alike
  cases alike.holds.2.form with
  | atom _ held => rw [held, same]
  | list _ => rw [lists, Doc.ofJson, lists]
  | object _ _ => rw [objects, Doc.ofJson, objects]

theorem textAs (expected : String) : Coincides (Decode.textAs expected) id := by
  refine of_atoms (fun levels v => ?_) (fun _ _ _ => toOption_mismatch _ _)
    fun _ _ _ => toOption_mismatch _ _
  cases v <;> rfl

theorem parsed (expected : String) (parse : String → Except String α) :
    Coincides (Decode.parsed expected parse) id :=
  (textAs expected).bind _

theorem bool : Coincides Decode.bool id := by
  refine of_atoms (fun levels v => ?_) (fun _ _ _ => toOption_mismatch _ _)
    fun _ _ _ => toOption_mismatch _ _
  cases v <;> rfl

theorem nat : Coincides Decode.nat id := by
  refine of_atoms (fun levels v => ?_) (fun _ _ _ => toOption_mismatch _ _)
    fun _ _ _ => toOption_mismatch _ _
  cases v with
  | number n => cases n <;> rfl
  | _ => rfl

theorem real : Coincides Decode.real id := by
  refine of_atoms (fun levels v => ?_) (fun _ _ _ => toOption_mismatch _ _)
    fun _ _ _ => toOption_mismatch _ _
  cases v with
  | number n => cases n <;> rfl
  | _ => rfl

theorem any : Coincides Decode.any id := by
  intro levels d v alike
  obtain ⟨normal, holds⟩ := alike.holds
  rw [Decode.any, holds.read, Decode.any, read_ofJson, normal]

theorem option_ofJson {v : Json} (something : v ≠ .null) (s : Setting) :
    Decode.option dec s (.ofJson v) = (dec s (.ofJson v)).map some := by
  cases v <;> first | rfl | exact absurd rfl something

theorem option_holds {levels : Nat} {d : Doc} {v : Json} (holds : d.Holds levels v)
    (something : v ≠ .null) (s : Setting) :
    Decode.option dec s d = (dec s d).map some := by
  cases holds.form with
  | atom _ held => rw [held, option_ofJson something]
  | list _ => rfl
  | object _ _ => rfl

theorem option (coincides : Coincides dec keep) (keeps : ∀ v, keep v = .null ↔ v = .null) :
    Coincides (Decode.option dec) keep := by
  intro levels d v alike
  have same := coincides levels d v alike
  obtain ⟨_, read, holds, kept⟩ := alike
  have together : v = .null ↔ read = .null := by rw [← keeps v, kept, keeps read]
  by_cases null : read = .null
  · obtain rfl := together.mpr null
    subst null
    cases holds.form with
    | atom _ held => rw [held]; rfl
  · rw [option_holds holds null, option_ofJson (together.not.mpr null), toOption_map, toOption_map,
      same]

theorem unit : Coincides Decode.unit id := by
  refine of_atoms (fun levels v => ?_) (fun _ _ _ => toOption_mismatch _ _)
    fun _ _ _ => toOption_mismatch _ _
  cases v <;> rfl

theorem variant_crowded (names : List (String × α)) :
    (∀ levels m m' rest, (Decode.variant names (.text levels)
      (.object (m :: m' :: rest) .closed)).toOption = none) ∧
    ∀ members : List (String × Json), 1 < members.length →
      (Decode.variant names .data (.ofJson (.object members))).toOption = none := by
  refine ⟨fun levels m m' rest => ?_, fun members many => ?_⟩
  · simp only [Decode.variant, Decode.afterVariant, toOption_bind]
    simp [toOption_error]
  · rcases members with _ | ⟨_, _ | ⟨_, rest⟩⟩
    · cases many
    · simp at many
    · rfl

theorem variant (names : List (String × α)) : Coincides (Decode.variant names) id := by
  intro levels d v alike
  cases alike.holds.2.form with
  | atom isAtom held =>
    subst held
    cases v with
    | text t => rfl
    | list _ => cases isAtom
    | object _ => cases isAtom
    | _ => exact (toOption_mismatch _ _).symm
  | list _ => exact (toOption_mismatch _ _).symm
  | @object inner members ms held distinct =>
    cases held with
    | nil => rfl
    | @cons m p members ms first later =>
      cases later with
      | nil =>
        obtain ⟨n, w⟩ := p
        obtain ⟨reading, inside⟩ := m
        obtain ⟨rfl, value⟩ := first
        have same := unit inner inside w ⟨value.sound.read_normal value.read, w, value, rfl⟩
        simp only [Decode.variant, Doc.ofJson, Setting.enter, sorted, List.foldl, put,
          Doc.ofMembers, toOption_bind, toOption_ok, Option.bind_some, same]
        rfl
      | cons second later =>
        -- more than one member names no variant, neither in text nor in data
        obtain ⟨text, data⟩ := variant_crowded names
        rw [text, data _ (by rw [(sorted_perm distinct).length_eq]; simp)]

end Coincides

section Finding

inductive FoundAlike (keep : Json → Json) (levels : Nat) (first second : Option Doc) : Prop
  | none : first = none → second = none → FoundAlike keep levels first second
  | some {d : Doc} {v : Json} : first = some d → second = some (.ofJson v) →
      Alike keep levels d v → FoundAlike keep levels first second

structure Lookup.Alike (fields : List (String × (Json → Json))) (levels : Nat) (l l' : Lookup) :
    Prop where
  text : l.setting = .text levels
  data : l'.setting = .data
  found : ∀ field ∈ fields, FoundAlike field.2 levels (l.find field.1) (l'.find field.1)

/-- Each field has its check, and fields that are found alike make up the same record. -/
structure Shape.Coincides {α : Type} (shape : Shape α) (fields : List (String × (Json → Json))) :
    Prop where
  checks : List.Forall₂ (fun check field => check.1 = field.1 ∧ Json.Coincides check.2 field.2)
    shape.fields fields
  build : ∀ levels l l', Lookup.Alike fields levels l l' →
    (shape.build l).toOption = (shape.build l').toOption

namespace Shape.Coincides

variable {α β : Type} {name : String} {dec : Decoder α} {keep : Json → Json}
  {fields fields' : List (String × (Json → Json))}

theorem constant (a : α) : (constant a).Coincides [] := ⟨.nil, fun _ _ _ _ => rfl⟩

theorem checks_single (coincides : Json.Coincides dec keep) :
    List.Forall₂ (fun check field => check.1 = field.1 ∧ Json.Coincides check.2 field.2)
      [(name, checking dec)] [(name, keep)] :=
  .cons ⟨rfl, coincides.checking⟩ .nil

theorem required (coincides : Json.Coincides dec keep) :
    (required name dec).Coincides [(name, keep)] := by
  refine ⟨checks_single coincides, fun levels l l' alike => ?_⟩
  obtain ⟨text, data, found⟩ := alike
  have here : FoundAlike keep levels (l.find name) (l'.find name) :=
    found _ (List.mem_singleton.mpr rfl)
  simp only [Shape.required, text, data]
  cases here with
  | none first second => rw [first, second]; rfl
  | some first second alike => rw [first, second]; exact coincides levels _ _ alike

theorem defaulted (coincides : Json.Coincides dec keep) (fallback : α) :
    (defaulted name dec fallback).Coincides [(name, keep)] := by
  refine ⟨checks_single coincides, fun levels l l' alike => ?_⟩
  obtain ⟨text, data, found⟩ := alike
  have here : FoundAlike keep levels (l.find name) (l'.find name) :=
    found _ (List.mem_singleton.mpr rfl)
  simp only [Shape.defaulted, text, data]
  cases here with
  | none first second => rw [first, second]
  | some first second alike => rw [first, second]; exact coincides levels _ _ alike

theorem optional (coincides : Json.Coincides dec keep) (keeps : ∀ v, keep v = .null ↔ v = .null) :
    (Shape.optional name dec).Coincides [(name, keep)] :=
  defaulted (coincides.option keeps) none

theorem field {f : Shape (α → β)} {x : Shape α} (first : f.Coincides fields)
    (next : x.Coincides fields') : (f <*> x).Coincides (fields ++ fields') := by
  refine ⟨List.rel_append first.checks next.checks, fun levels l l' alike => ?_⟩
  obtain ⟨text, data, found⟩ := alike
  obtain ⟨before, after⟩ := List.forall_mem_append.mp found
  change (do let g ← f.build l; return g (← x.build l)).toOption =
    (do let g ← f.build l'; return g (← x.build l')).toOption
  simp only [toOption_bind, first.build levels l l' ⟨text, data, before⟩,
    next.build levels l l' ⟨text, data, after⟩]

end Shape.Coincides

end Finding

end Intake.Json
