import Intake.Config.Basic

/-!
Configurations to try pipelines with.
-/
namespace Intake.Config

def sample : Config :=
  (minimal "mysql" "local_mysql").withConnection
    ⟨.object [("config", .object [("hostPort", .text "localhost:3306"), ("type", .text "Mysql")])]⟩

def deployedSample : Config :=
  { sample with pipelineFqn := some "local_mysql.metadata_ingestion" }

end Intake.Config
