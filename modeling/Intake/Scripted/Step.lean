import Intake.Pipeline.Step
import Intake.Text.Upper

/-!
Record steps and bulk sinks that follow a script.
-/
namespace Intake.Scripted

inductive Act (ρ : Type) where
  | next
  | consume
  | filter (reason : String)
  | fail (error : StepError)
  | failNaming (message : String)
  | panic (payload : Payload)
  | upper
  | append (ending : String)
  | replace (other : ρ)
  /-- The key is left for the bulk sink, and the record is kept or goes on. -/
  | stage (goesOn : Bool)
  | awaitProgress
  | warn (message : String) (act : Act ρ)

variable {ρ : Type} [Record ρ]

def Act.respond (r : ρ) : Act ρ → Response ρ
  | .next => ⟨[], .next r⟩
  | .consume => ⟨[], .consumed⟩
  | .filter reason => ⟨[], .filtered reason⟩
  | .fail e => ⟨[], .failed e⟩
  | .failNaming message => ⟨[], .failed (.ofMessage (message ++ ": " ++ Record.key r))⟩
  | .panic p => ⟨[], .panicked p⟩
  | .upper =>
    let raised := (Record.text? r).map fun t => Record.ofText (Text.upper t)
    ⟨[], .next (raised.getD r)⟩
  | .append ending => ⟨[], .next (Record.ofText (Record.key r ++ ending))⟩
  | .replace r' => ⟨[], .next r'⟩
  | .stage goesOn => ⟨[.stage (Record.key r)], if goesOn then .next r else .consumed⟩
  | .awaitProgress => ⟨[.awaitProgress], .next r⟩
  | .warn message act =>
    let response := act.respond r
    ⟨.note (.warning (Record.key r) message) :: response.actions, response.outcome⟩

/-- Acts for the first calls, and after these for records by their keys. -/
structure Script (ρ : Type) where
  calls : List (Act ρ)
  on : List (String × Act ρ)
  otherwise : Act ρ

namespace Script

def act (s : Script ρ) (earlier : Nat) (key : String) : Act ρ :=
  s.calls[earlier]?.getD ((s.on.lookup key).getD s.otherwise)

def failingOn (keys : List String) (s : Script ρ) : Script ρ :=
  { s with on := keys.map (fun key => (key, .failNaming "mock failure")) ++ s.on }

def step (name : String) (s : Script ρ) (onClose : Reply) : RecordStep ρ where
  name := name
  react := fun earlier r => (s.act earlier.length (Record.key r)).respond r
  onClose := onClose

end Script

inductive Order where
  | note (n : Note)
  | scanStaged
  | awaitProgress
  | stop (reply : Reply)

def publish (staged : List String) : List Order → Publication
  | [] => ⟨[], .done⟩
  | .stop reply :: _ => ⟨[], reply⟩
  | .note n :: rest =>
    let p := publish staged rest
    ⟨.note n :: p.actions, p.reply⟩
  | .scanStaged :: rest =>
    let p := publish staged rest
    ⟨staged.map (fun key => .note (.scanned key)) ++ p.actions, p.reply⟩
  | .awaitProgress :: rest =>
    let p := publish staged rest
    ⟨.awaitProgress :: p.actions, p.reply⟩

def bulkSink (name : String) (orders : List Order) (onClose : Reply) : BulkSink :=
  ⟨name, fun staged => publish staged orders, onClose⟩

end Intake.Scripted
