import Intake.Json.Printer

/-!
Records, the units that flow through a pipeline. Nothing but the key of a record is ever looked at.
-/
namespace Intake

class Record (ρ : Type) where
  /-- How a record is called in status entries. -/
  key : ρ → String
  named : String → ρ
  ofText : String → ρ
  text? : ρ → Option String

instance : Record String := ⟨id, id, id, some⟩

/-- The members that may hold the key of a JSON record, the best one first. -/
def Json.keyMembers : List String := ["fullyQualifiedName", "name", "id"]

def Json.key (v : Json) : String :=
  match Json.keyMembers.findSome? fun name => (v.get? name).bind Json.text? with
  | some key => key
  | none => v.print

instance : Record Json :=
  ⟨Json.key, fun key => .object [("name", .text key)], .text, Json.text?⟩

end Intake
