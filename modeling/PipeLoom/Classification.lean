import PipeLoom.Intent
import PipeLoom.Release.Tag

/-!
# Classification of events

Every event has one intent, and an intent to do nothing comes with a reason.
-/

namespace PipeLoom

structure Classification where
  intent : Intent
  reason : Option String
  deriving DecidableEq, Repr

namespace Classification

def of (i : Intent) : Classification := ⟨i, none⟩

def noOp (reason : String) : Classification := ⟨.noOp, some reason⟩

end Classification

/-- In emergency mode a hotfix release skips the gates. -/
def Event.classify (emergencyMode : Bool) : Event → Classification
  | .pullRequest => .of .validateOnly
  | .workflowDispatch => .noOp "workflow_dispatch does not deploy; push a release tag instead"
  | .tagPush tag =>
    match Tag.parse tag with
    | .ok (.stable _) => .of .deployStaging
    | .ok (.hotfix _ _) =>
      .noOp ("hotfix tag '" ++ tag ++ "' is deployed when its release is published, not on push")
    | .error e => .noOp e.message
  | .releasePublished tag =>
    match Tag.parse tag with
    | .ok (.stable _) => .of .deployProduction
    | .ok (.hotfix _ _) => .of (.deployProductionHotfix emergencyMode)
    | .error e => .noOp e.message

end PipeLoom
