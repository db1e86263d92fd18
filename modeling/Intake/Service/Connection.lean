import Intake.Json.Record
import Intake.Service.Kind

/-!
How to reach a service. The document belongs to the connector and holds credentials, so a
connection describes itself by its declared type alone.
-/
namespace Intake

structure Connection where
  document : Json

namespace Connection

def isEmpty (c : Connection) : Bool :=
  match c.document with
  | .null => true
  | .object members => members.isEmpty
  | _ => false

/-- The type that the document declares, in its `config` member if there is one. -/
def declaredType (c : Connection) : Option String :=
  (((c.document.get? "config").getD c.document).get? "type").bind Json.text?

def describe (c : Connection) : String :=
  Text.fields "ServiceConnection" [("type", Text.quotedOption c.declaredType)] true

def decode : Json.Decoder Connection := fun s d => do return ⟨← Json.Decode.any s d⟩

def toJson (c : Connection) : Json := c.document

def ofType (type : String) : Connection :=
  ⟨.object [("config", .object [("type", .text type)])]⟩

end Connection

structure Service where
  name : String
  kind : ServiceKind
  connection : Option Connection

namespace Service

open Json.Shape (required optional constant) in
def shape : Json.Shape Service :=
  constant Service.mk <*> required "name" Json.Decode.text
    <*> required "serviceType" ServiceKind.decode <*> optional "connection" Connection.decode

def decode : Json.Decoder Service := Json.Decode.record "ServiceEntity" shape

def toJson (s : Service) : Json :=
  .object ([("name", .text s.name), ("serviceType", s.kind.toJson)] ++
    Json.given "connection" (s.connection.map Connection.toJson))

end Service

end Intake
