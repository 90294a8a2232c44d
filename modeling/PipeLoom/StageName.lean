/-!
# Stages

The named phases of a pipeline in canonical order, and the role each plays in a deployment. The
`pre` and `post` stages bracket building and deploying; only hooks may add steps to them.
-/

namespace PipeLoom

/-- What a stage does for a deployment: it guards it, prepares it, or touches an environment. -/
inductive StageKind where
  | gate | build | deploy
  deriving DecidableEq, Repr

def StageKind.name : StageKind → String
  | .gate => "gate"
  | .build => "build"
  | .deploy => "deploy"

inductive StageName where
  | lint | test | preBuild | build | postBuild | preDeploy | deploy | postDeploy
  deriving DecidableEq, Repr

namespace StageName

/-- Every stage, in canonical order. -/
def all : List StageName :=
  [lint, test, preBuild, build, postBuild, preDeploy, deploy, postDeploy]

theorem mem_all (n : StageName) : n ∈ all := by cases n <;> decide

def name : StageName → String
  | lint => "lint"
  | test => "test"
  | preBuild => "pre-build"
  | build => "build"
  | postBuild => "post-build"
  | preDeploy => "pre-deploy"
  | deploy => "deploy"
  | postDeploy => "post-deploy"

def ofName? (s : String) : Option StageName := all.find? fun n => n.name == s

theorem ofName?_name (n : StageName) : ofName? n.name = some n := by cases n <;> decide

theorem ofName?_eq_some {s : String} {n : StageName} (h : ofName? s = some n) : s = n.name :=
  (by simpa using List.find?_some h : n.name = s).symm

def isHookStage : StageName → Bool
  | preBuild | postBuild | preDeploy | postDeploy => true
  | _ => false

def kind : StageName → StageKind
  | lint | test => .gate
  | preBuild | build | postBuild => .build
  | preDeploy | deploy | postDeploy => .deploy

/-- The name as a title: `Pre deploy`. -/
def title : StageName → String
  | lint => "Lint"
  | test => "Test"
  | preBuild => "Pre build"
  | build => "Build"
  | postBuild => "Post build"
  | preDeploy => "Pre deploy"
  | deploy => "Deploy"
  | postDeploy => "Post deploy"

end StageName

end PipeLoom
