import Intake.Json.Loose
import Intake.Scripted.Source
import Intake.Scripted.Step

/-!
Scripted components from the settings in a configuration.
-/
namespace Intake.Scripted

class Written (ρ : Type) extends Record ρ where
  ofJson : Json → ρ
  toJson : ρ → Json

instance : Written String := ⟨Json.string, .text⟩

instance : Written Json := ⟨id, id⟩

/-- A message, or a list of a message and its causes. -/
def stepErrorOf : Json → StepError
  | .list (v :: vs) => ⟨v.string, vs.map Json.string, none⟩
  | v => .ofMessage v.string

def failureOf (v : Json) : Failure :=
  let name := v.stringOf "name"
  let f :=
    match v.get? "error" with
    | some e => Failure.ofText 0.0 name e.string
    | none => Failure.ofError 0.0 name (stepErrorOf (v.valueOf "chain"))
  match v.get? "stack" with
  | some (.text trace) => f.withStackTrace trace
  | _ => f

def listedFailure (v : Json) : Failure :=
  let f := Failure.ofText 0.0 (v.stringAt 0) (v.stringAt 1)
  match v.item? 2 with
  | some (.text trace) => f.withStackTrace trace
  | _ => f

def replyOf (v : Json) : Reply :=
  match v.get? "fail", v.get? "panic" with
  | some m, _ => .failed (.ofMessage m.string)
  | none, some m => .panicked (.text m.string)
  | none, none => .done

def closeOf (settings : Json) : Reply := replyOf (settings.valueOf "on_close")

def payloadOf (v : Json) : Payload :=
  match v.get? "panic" with
  | some m => .text m.string
  | none => if v.has "panic_static" then .text "static panic" else .unreadable

variable {ρ : Type} [Written ρ]

def lineOf (v : Json) : Line ρ :=
  match v.members with
  | ("record", r) :: _ => .item (.record (Written.ofJson r))
  | ("filtered", f) :: _ => .item (.filtered (f.stringAt 0) (f.stringAt 1))
  | ("failed", f) :: _ => .item (.failed (failureOf f))
  | ("error", e) :: _ => .stop (.failed (stepErrorOf e))
  | ("end", _) :: _ => .stop .exhausted
  | ("warning", w) :: _ => .warning (w.stringAt 0) (w.stringAt 1)
  | ("wait_progress", _) :: _ => .awaitProgress
  | _ => .stop (.panicked (payloadOf v))

def scriptedSource (settings : Json) (name : String) (onClose : Reply) : Source ρ :=
  source name ((settings.itemsOf "items").map lineOf) onClose

def sourceOf (settings : Json) (name : String) : Source ρ :=
  match settings.stringOf "adapter", settings.get? "records", settings.get? "numbered" with
  | "stream", some rs, _ =>
    .ofItems name (rs.items.map fun r => .record (Written.ofJson r)) .done
  | "stream", none, _ => scriptedSource settings name .done
  | "script", _, _ => scriptedSource settings name (closeOf settings)
  | _, _, n =>
    let s : Source ρ :=
      match n with
      | some n => .ofItems name (numbered (n.stringAt 0) (n.countAt 1)) (closeOf settings)
      | none => scriptedSource settings name (closeOf settings)
    match settings.get? "fail_after" with
    | some f => s.failAfter (f.countAt 0) (.ofMessage (f.stringAt 1))
    | none => s

/-- The act that a text or a member names; `naming` says that failures name the record. -/
def actOf (naming : Bool) (v : Json) : Act ρ :=
  match v with
  | .text "consume" => .consume
  | .text "upper" => .upper
  | .text "stage" => .stage false
  | .text "stage_next" => .stage true
  | .text "wait_progress" => .awaitProgress
  | .text "panic_any" => .panic .unreadable
  | .text "panic_static" => .panic (.text "static panic")
  | .object (("filter", r) :: _) => .filter r.string
  | .object (("fail", m) :: _) => if naming then .failNaming m.string else .fail (stepErrorOf m)
  | .object (("panic", m) :: _) => .panic (.text m.string)
  | .object (("replace", r) :: _) => .replace (Written.ofJson r)
  | .object (("append", e) :: _) => .append e.string
  | .object (("warn", .list (m :: act :: _)) :: _) => .warn m.string (actOf naming act)
  | _ => .next

/-- What an act is when the n-th call, the key or nothing else decides. -/
def scriptOf (naming : Bool) (settings : Json) : Script ρ where
  calls := if naming then [] else (settings.itemsOf "calls").map (actOf naming)
  on := (settings.valueOf "on").members.map fun m => (m.1, actOf naming m.2)
  otherwise := ((settings.get? "default").map (actOf naming)).getD .next

def recordStepOf (settings : Json) (name : String) : RecordStep ρ :=
  if settings.stringOf "adapter" == "fn" then (scriptOf false settings).step name .done
  else
    ((scriptOf true settings).failingOn ((settings.itemsOf "failing_on").map Json.string)).step name
      (closeOf settings)

def orderOf (v : Json) : Order :=
  match v.members with
  | ("scan", k) :: _ => .note (.scanned k.string)
  | ("filter", f) :: _ => .note (.filtered (f.stringAt 0) (f.stringAt 1))
  | ("failed", f) :: _ => .note (.failed (listedFailure f))
  | ("warn", w) :: _ => .note (.warning (w.stringAt 0) (w.stringAt 1))
  | ("publish", _) :: _ => .scanStaged
  | ("wait_progress", _) :: _ => .awaitProgress
  | ("error", e) :: _ => .stop (.failed (stepErrorOf e))
  | _ => .stop (.panicked (payloadOf v))

def bulkSinkOf (settings : Json) (name : String) : BulkSink :=
  match settings.stringOf "adapter" with
  | "bare" => bulkSink name [] .done
  | "script" => bulkSink name ((settings.itemsOf "script").map orderOf) (closeOf settings)
  | _ =>
    let orders := (settings.get? "error").map fun m => Order.stop (.failed (.ofMessage m.string))
    bulkSink name orders.toList (closeOf settings)

def recordRoleOf (settings : Json) : RecordRole :=
  match (settings.valueOf "role").readAs Role.decode .processor with
  | .stage => .stage
  | .sink => .sink
  | _ => .processor

def stepOf (settings : Json) : Step ρ :=
  let name := settings.stringOf "name"
  match (settings.valueOf "role").readAs Role.decode .processor with
  | .bulkSink => .bulk (bulkSinkOf settings name)
  | _ => .record (recordRoleOf settings) (recordStepOf settings name)

end Intake.Scripted
