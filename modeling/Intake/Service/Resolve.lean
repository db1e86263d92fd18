import Intake.Effect
import Intake.Service.Catalog

/-!
The kind of service that a source belongs to, and the connection where the configuration of the
source has none. What is configured always comes before what the catalog has stored.
-/
namespace Intake

def ServiceKind.ofSourceType (sourceType : String) : Except WorkflowError ServiceKind :=
  match ofSourceType? sourceType with
  | some kind => .ok kind
  | none => .error (.unknownSourceType sourceType)

inductive Resolution where
  | alreadyProvided
  | overwriteForced
  | fromCatalog
deriving DecidableEq

structure Resolved where
  source : Config.Source
  result : Except WorkflowError Resolution
  effects : List Effect

def usableConnection (service : Option Service) : Option Connection :=
  (service.bind (·.connection)).filter fun c => !c.isEmpty

def resolve (catalog : Catalog) (source : Config.Source) (kind : ServiceKind) : Resolved :=
  let service := ("service", Log.Value.text source.serviceName)
  if source.hasConnection then
    ⟨source, .ok .alreadyProvided,
      [.logged ⟨.debug, "Using the configured service connection", [service]⟩]⟩
  else if catalog.config.forceEntityOverwriting then
    ⟨source, .ok .overwriteForced,
      [.logged ⟨.debug,
        "Entity overwriting is forced, not reading the connection from the catalog",
        [service]⟩]⟩
  else
    let provider := catalog.config.secretsManagerProvider
    let asked := Effect.lookedUp kind source.serviceName
    match catalog.lookup kind source.serviceName with
    | .error e =>
      ⟨source, .error (.lookupFailed source.serviceName provider e),
        [asked,
          .logged ⟨.debug, "Service lookup failed", [("error", .text e.detailed)]⟩,
          .logged ⟨.error, "Unknown error getting service connection: " ++ e.text,
            [service, ("secrets_manager_provider", .text provider)]⟩]⟩
    | .ok found =>
      match usableConnection found with
      | some connection =>
        ⟨{ source with connection := some connection }, .ok .fromCatalog,
          [asked,
            .logged ⟨.info, "Using the service connection stored in the catalog",
              [service, ("service_type", .text kind.entityType)]⟩]⟩
      | none => ⟨source, .error (.connectionNotFound source.serviceName), [asked]⟩

def describeResolver (catalog : Catalog) : String :=
  Text.fields "ServiceConnectionResolver" [("host_port", Text.quoted catalog.config.hostPort)] false

end Intake
