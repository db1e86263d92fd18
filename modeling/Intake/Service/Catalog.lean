import Intake.Config.Basic
import Intake.StepError

/-!
The metadata catalog as a workflow sees it.
-/
namespace Intake

/-- A client of the catalog: its configuration, what it answers to a look-up, and how it closes. -/
structure Catalog where
  config : Config.Catalog
  lookup : ServiceKind → String → Except StepError (Option Service)
  onClose : Reply

namespace Catalog

/-- The service that was stored last under a kind and a name. -/
def find (services : List Service) (kind : ServiceKind) (name : String) : Option Service :=
  services.reverse.find? fun s => s.kind == kind && s.name == name

def ofServices (config : Config.Catalog) (services : List Service) (onClose : Reply) : Catalog :=
  ⟨config, fun kind name => .ok (find services kind name), onClose⟩

def unreachable (config : Config.Catalog) (e : StepError) (onClose : Reply) : Catalog :=
  ⟨config, fun _ _ => .error e, onClose⟩

end Catalog

def Service.database (name connectionType : String) : Service :=
  ⟨name, .database, some (.ofType connectionType)⟩

end Intake
