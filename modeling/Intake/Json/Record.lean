import Intake.Json.Decode

/-!
Records: objects with known names, or lists of the same values in their order. Unknown names are
passed over. A fault inside a member is met where the member stands; a missing member is only
noticed at the end, in the order in which the fields are declared.
-/
namespace Intake.Json

/-- How to find a field by its name, and what it means that there is none. -/
structure Lookup where
  setting : Setting
  find : String → Option Doc
  missing : String → Fault

/-- The fields of a record: each with a check of its value, and the record built from all. -/
structure Shape (α : Type) where
  fields : List (String × Decoder Unit)
  build : Lookup → Except Fault α

namespace Shape

def checking {α : Type} (dec : Decoder α) : Decoder Unit :=
  fun s d => (dec s d).map fun _ => ()

def required {α : Type} (name : String) (dec : Decoder α) : Shape α where
  fields := [(name, checking dec)]
  build := fun l =>
    match l.find name with
    | some d => dec l.setting d
    | none => .error (l.missing name)

def defaulted {α : Type} (name : String) (dec : Decoder α) (fallback : α) : Shape α where
  fields := [(name, checking dec)]
  build := fun l =>
    match l.find name with
    | some d => dec l.setting d
    | none => .ok fallback

def optional {α : Type} (name : String) (dec : Decoder α) : Shape (Option α) :=
  defaulted name (Decode.option dec) none

def constant {α : Type} (v : α) : Shape α where
  fields := []
  build := fun _ => .ok v

def field {α β : Type} (f : Shape (α → β)) (a : Shape α) : Shape β where
  fields := f.fields ++ a.fields
  build := fun l => do
    let g ← f.build l
    return g (← a.build l)

instance : Seq Shape := ⟨fun f a => field f (a ())⟩

end Shape

/-- Checks the members in the order of the document; `other` deals with a name that is not among
the fields. -/
def checkMembers (fields : List (String × Decoder Unit)) (other : Decoder Unit) (s : Setting)
    (seen : List String) : List (Reading String × Doc) → Except Fault Unit
  | [] => .ok ()
  | (name, d) :: rest => do
    let n ← name.value
    match fields.lookup n with
    | none => do
      other s d
      checkMembers fields other s seen rest
    | some check => do
      if n ∈ seen then .error (.duplicateField n)
      check s d
      checkMembers fields other s (n :: seen) rest

def memberNamed (members : List (Reading String × Doc)) (name : String) : Option Doc :=
  (members.find? fun m =>
    match m.1.value with
    | .ok n => n == name
    | .error _ => false).map (·.2)

def lookupMembers (s : Setting) (members : List (Reading String × Doc)) : Lookup :=
  ⟨s, memberNamed members, .missingField⟩

/-- The items of a list as fields; past its last item lies what cut it off, if anything did. A field
that is missing is called by the number of fields before it. -/
def lookupItems (s : Setting) (names : List String) (items : List Doc) (ending : Ending)
    (short : Nat → Fault) : Lookup where
  setting := s
  find := fun name =>
    let i := names.idxOf name
    match items[i]?, ending with
    | some d, _ => some d
    | none, .cut read _ => some (.absent read)
    | none, .closed => none
  missing := fun name => short (names.idxOf name)

def sizeText (name : String) (size : Nat) : String :=
  "struct " ++ name ++ " with " ++ toString size ++ (if size = 1 then " element" else " elements")

def afterFields (s : Setting) (size : Nat) (items : List Doc) (ending : Ending) :
    Except Fault Unit :=
  match s with
  | .data =>
    if size < items.length then .error (.wrongLength items.length "fewer elements in array")
    else .ok ()
  | .text _ =>
    if size < items.length then .error .trailingText
    else
      match ending with
      | .closed => .ok ()
      | .cut .commaAtEnd _ => .error .commaAtEnd
      | .cut .endInList _ => .error .endInList
      | .cut _ _ => .error .trailingText

namespace Decode

def record {α : Type} (name : String) (shape : Shape α) : Decoder α
  | s, .object members ending => do
    let s ← s.enter
    checkMembers shape.fields (fun _ d => d.skip) s [] members
    ending.read
    shape.build (lookupMembers s members)
  | s, .list items ending => do
    let s ← s.enter
    let size := shape.fields.length
    let short (present : Nat) := Fault.wrongLength present (sizeText name size)
    let v ← shape.build (lookupItems s (shape.fields.map (·.1)) items ending short)
    afterFields s size items ending
    return v
  | _, d => mismatch ("struct " ++ name) d

/-- A record some of whose members belong to an inner record. Members that are not its own are read
in full and kept for the inner one, whose faults come last. There is no form as a list. -/
def flattened {α β : Type} (name : String) (own : Shape (β → α)) (inner : Shape β) : Decoder α
  | s, .object members ending => do
    let s ← s.enter
    checkMembers own.fields (Shape.checking any) s [] members
    ending.read
    let make ← own.build (lookupMembers s members)
    let kept := members.filter fun m =>
      match m.1.value with
      | .ok n => (inner.fields.lookup n).isSome && (own.fields.lookup n).isNone
      | .error _ => false
    checkMembers inner.fields (fun _ _ => .ok ()) s [] kept
    return make (← inner.build (lookupMembers s kept))
  | _, d => mismatch ("struct " ++ name) d

end Decode

def decodeText {α : Type} (dec : Decoder α) (s : String) : Except Fault α := do
  let whole := Doc.ofText s
  let v ← dec .start whole.doc
  if whole.trailing then .error .trailingText
  return v

def decodeData {α : Type} (dec : Decoder α) (v : Json) : Except Fault α :=
  dec .data (Doc.ofJson v)

def ofText (s : String) : Except Fault Json :=
  decodeText Decode.any s

end Intake.Json
