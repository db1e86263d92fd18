import Intake.Json.Doc

/-!
Reading typed data from JSON documents. The same readers serve text and data that was read before;
the two differ in the wording of some faults, and only text has a limit on nesting.
-/
namespace Intake.Json

/-- Where a document comes from; for text, with the number of containers that may still open. -/
inductive Setting where
  | text (levels : Nat)
  | data

def Setting.start : Setting := .text 127

def Setting.enter : Setting → Except Fault Setting
  | .text 0 => .error .tooDeep
  | .text (n + 1) => .ok (.text n)
  | .data => .ok .data

abbrev Decoder (α : Type) := Setting → Doc → Except Fault α

def Ending.read : Ending → Except Fault Unit
  | .closed => .ok ()
  | .cut read _ => .error read

def Ending.skip : Ending → Except Fault Unit
  | .closed => .ok ()
  | .cut _ skipped => .error skipped

def Reading.skip {α : Type} (r : Reading α) : Except Fault Unit :=
  match r.skipped with
  | none => .ok ()
  | some f => .error f

mutual

def Doc.skip : Doc → Except Fault Unit
  | .scalar r => r.skip
  | .text r => r.skip
  | .list items ending => do skipItems items; ending.skip
  | .object members ending => do skipMembers members; ending.skip
  | .absent f => .error f

def skipItems : List Doc → Except Fault Unit
  | [] => .ok ()
  | d :: rest => do d.skip; skipItems rest

def skipMembers : List (Reading String × Doc) → Except Fault Unit
  | [] => .ok ()
  | (name, d) :: rest => do name.skip; d.skip; skipMembers rest

end

mutual

/-- Free-form data, with the members of objects sorted and the last of equal names kept. -/
def Doc.read (s : Setting) : Doc → Except Fault Json
  | .scalar r => do
    match ← r.value with
    | .null => return .null
    | .bool b => return .bool b
    | .number n => return .number n
  | .text r => do return .text (← r.value)
  | .list items ending => do
    let vs ← readItems (← s.enter) items
    ending.read
    return .list vs
  | .object members ending => do
    let ms ← readMembers (← s.enter) members
    ending.read
    return .object (sorted ms)
  | .absent f => .error f

def readItems (s : Setting) : List Doc → Except Fault (List Json)
  | [] => .ok []
  | d :: rest => do
    let v ← d.read s
    return v :: (← readItems s rest)

def readMembers (s : Setting) : List (Reading String × Doc) → Except Fault (List (String × Json))
  | [] => .ok []
  | (name, d) :: rest => do
    let n ← name.value
    let v ← d.read s
    return (n, v) :: (← readMembers s rest)

end

def Doc.found : Doc → Except Fault Found
  | .scalar r => do
    match ← r.value with
    | .null => return .null
    | .bool b => return .bool b
    | .number n => return .number n
  | .text r => do return .text (← r.value)
  | .list _ _ => .ok .list
  | .object _ _ => .ok .object
  | .absent f => .error f

def mismatch {α : Type} (expected : String) (d : Doc) : Except Fault α := do
  let found ← d.found
  .error (.wrongType found expected)

namespace Decode

def any : Decoder Json := fun s d => d.read s

def textAs (expected : String) : Decoder String
  | _, .text r => r.value
  | _, d => mismatch expected d

def text : Decoder String := textAs "a string"

def parsed {α : Type} (expected : String) (parse : String → Except String α) : Decoder α :=
  fun s d => do
    let t ← textAs expected s d
    (parse t).mapError .refused

def bool : Decoder Bool
  | _, .scalar ⟨.ok (.bool b), _⟩ => .ok b
  | _, d => mismatch "a boolean" d

def nat : Decoder Nat
  | _, .scalar ⟨.ok (.number (.integer n)), _⟩ =>
    if n < 0 then .error (.wrongValue (.number (.integer n)) "u64") else .ok n.toNat
  | _, d => mismatch "u64" d

def real : Decoder Float
  | _, .scalar ⟨.ok (.number (.integer n)), _⟩ => .ok (.ofInt n)
  | _, .scalar ⟨.ok (.number (.real x)), _⟩ => .ok x
  | _, d => mismatch "f64" d

def option {α : Type} (dec : Decoder α) : Decoder (Option α)
  | _, .scalar ⟨.ok .null, _⟩ => .ok none
  | s, d => do return some (← dec s d)

def items {α : Type} (dec : Decoder α) (s : Setting) : List Doc → Except Fault (List α)
  | [] => .ok []
  | d :: rest => do
    let v ← dec s d
    return v :: (← items dec s rest)

def list {α : Type} (dec : Decoder α) : Decoder (List α)
  | s, .list ds ending => do
    let vs ← items dec (← s.enter) ds
    ending.read
    return vs
  | _, d => mismatch "a sequence" d

def named {α : Type} (names : List (String × α)) (name : String) : Except Fault α :=
  match names.lookup name with
  | some v => .ok v
  | none => .error (.unknownVariant name (names.map (·.1)))

def unit : Decoder Unit
  | _, .scalar ⟨.ok .null, _⟩ => .ok ()
  | _, d => mismatch "unit" d

def afterVariant (rest : List (Reading String × Doc)) : Ending → Except Fault Unit
  | .closed => if rest.isEmpty then .ok () else .error .noValue
  | .cut .endInObject _ => .error (if rest.isEmpty then .endInObject else .noValue)
  | .cut _ _ => .error .noValue

/-- One of the given names: as a text, or as the only name of an object whose value is null. -/
def variant {α : Type} (names : List (String × α)) : Decoder α
  | _, .text r => do named names (← r.value)
  | .text levels, .object members ending => do
    let s ← (Setting.text levels).enter
    match members, ending with
    | [], .closed => .error .noValue
    | [], .cut read _ => .error read
    | (name, d) :: rest, ending => do
      let v ← named names (← name.value)
      unit s d
      afterVariant rest ending
      return v
  | .data, .object members _ => do
    match members with
    | [(name, d)] => do
      let v ← named names (← name.value)
      unit .data d
      return v
    | _ => .error (.wrongValue .object "map with a single key")
  | .text _, .absent f => .error f
  | .text _, _ => .error .noValue
  | .data, d => mismatch "string or map" d

end Decode

end Intake.Json
