import PipeLoom.Classification.Script
import PipeLoom.Pipeline.Basic
import PipeLoom.Release.Tag
import PipeLoom.Workflow.Basic

/-!
# The workflows of a pipeline

A pipeline has a main workflow and, with the hooks of those names, one for hotfix releases and one
that redeploys an earlier release. Each stage becomes a job that waits for the one before it; in the
first two workflows a job classifies the event and conditions on its outputs decide which stages
run.
-/

namespace PipeLoom

open Yaml (Node)

structure EmitOptions where
  appName : String
  /-- What holds where the repository does not set `EMERGENCY_MODE`. -/
  emergencyMode : Bool
  runsOn : String

namespace EmitOptions

def new (appName : String) : EmitOptions := ⟨appName, false, "ubuntu-latest"⟩

end EmitOptions

inductive WorkflowKind where
  | main | hotfix | rollback
  deriving DecidableEq, Repr

namespace WorkflowKind

def name : WorkflowKind → String
  | main => "pipeline"
  | hotfix => "hotfix"
  | rollback => "rollback"

def fileName (k : WorkflowKind) : String := k.name ++ ".yml"

theorem fileName_injective : Function.Injective fileName := by
  intro k l
  cases k <;> cases l <;> decide +kernel

end WorkflowKind

/-! ## Jobs -/

def checkoutAction : String := "actions/checkout@v4"

def classifyJobId : String := "classify"

def validateJobId : String := "validate-tag"

/-- Where conditions find the outputs of the classifying job. -/
def classifyOutputs : String := "needs." ++ classifyJobId ++ ".outputs"

/-- A job that needs nothing and has steps. -/
def Job.plain (name runsOn : String) (steps : List Step) : Job :=
  ⟨name, runsOn, [], none, none, ∅, ∅, steps⟩

namespace EmitOptions

variable (o : EmitOptions)

def classifyJob (condition : Option String) : Job :=
  let step := (Step.run "Classify trigger" Script.classifier).withId classifyJobId
  let step := Script.classifierEnv.foldl (fun s e => s.withEnv e.1 e.2) step
  let output (name : String) : String × String :=
    (name, Expression.embed ("steps." ++ classifyJobId ++ ".outputs." ++ name))
  { Job.plain "Classify trigger" o.runsOn [step] with
    condition, outputs := .ofList (["intent", "environment", "skip_gates"].map output) }

/-- The job that checks the tag to return to. -/
def validateJob : Job :=
  .plain "Validate rollback tag" o.runsOn
    [(Step.uses "Checkout" checkoutAction).withInput "fetch-depth" "0",
      .run "Validate tag" Script.tagCheck]

/-- The condition of a job whose stage has the guard: nothing failed before it and the guard
holds. -/
def jobCondition (g : Guard) : Expression :=
  .both (.both (.not (.call "failure")) (.not (.call "cancelled")))
    (.group (g.condition classifyOutputs))

/-- Checkout, the setup of the pipeline, the steps of the stage. -/
def stageSteps (p : Pipeline) (s : Stage) (checkout : Step) : List Step :=
  checkout :: p.setup ++ s.steps

def stageJob (p : Pipeline) (s : Stage) (needs : List String) (condition : Option Expression)
    (environment : String) (checkout : Step) : Job :=
  { Job.plain s.name.title o.runsOn (stageSteps p s checkout) with
    needs
    condition := condition.map fun e => Expression.embed e.print
    environment := if s.name.kind = .deploy then some environment else none }

/-- The jobs of stages, each told the id of the job before it. -/
def chain (job : Option String → Stage → Job) : Option String → List Stage → List (String × Job)
  | _, [] => []
  | previous, s :: ss => (s.name.name, job previous s) :: chain job (some s.name.name) ss

/-- The jobs of a workflow; one that comes again takes the place of the first. -/
def collect (js : List (String × Job)) : List (String × Job) :=
  js.foldl (fun all j => Workflow.insertJob j.1 j.2 all) []

/-- The jobs of guarded stages behind the classifying one. -/
def classifiedJobs (p : Pipeline) (condition : Option String) (guard : Stage → Guard)
    (environment : String) : List (String × Job) :=
  let job (previous : Option String) (s : Stage) : Job :=
    o.stageJob p s (classifyJobId :: previous.toList) (some (jobCondition (guard s))) environment
      (.uses "Checkout" checkoutAction)
  collect ((classifyJobId, o.classifyJob condition) :: chain job none p.stages)

/-- The jobs that redeploy a tag: every stage but the gates, without conditions. -/
def rollbackJobs (p : Pipeline) : List (String × Job) :=
  let checkout :=
    (Step.uses "Checkout" checkoutAction).withInput "ref" (Expression.embed "inputs.tag")
  let job (previous : Option String) (s : Stage) : Job :=
    o.stageJob p s previous.toList none "production" checkout
  collect ((validateJobId, o.validateJob) ::
    chain job (some validateJobId) (p.stages.filter fun s => s.name.kind != .gate))

/-! ## Workflows -/

/-- The environment of the pipeline with the names that every workflow defines. -/
def workflowEnv (p : Pipeline) : Dict String :=
  let mode := if o.emergencyMode then "true" else "false"
  (p.env.insert "APP_NAME" o.appName).insert "EMERGENCY_MODE"
    (Expression.embed ("vars.EMERGENCY_MODE || '" ++ mode ++ "'"))

/-- A mapping of one key to a list. -/
def filterOn (key value : String) : Node := .record [(key, Node.ofTexts [value])]

def triggers : WorkflowKind → Node
  | .main => .record [("pull_request", .map []), ("push", filterOn "tags" "v*"),
      ("release", filterOn "types" "published")]
  | .hotfix => .record [("release", filterOn "types" "published")]
  | .rollback =>
    let tag := Node.record [("description", .text "Release tag to redeploy"),
      ("required", .bool true), ("type", .text "string")]
    .record [("workflow_dispatch", .record [("inputs", .record [("tag", tag)])])]

/-- The guard of a stage in a classified workflow: hotfix deployments belong to the hotfix workflow
where there is one. -/
def guardIn (p : Pipeline) (k : WorkflowKind) (s : Stage) : Guard :=
  match k with
  | .hotfix => s.guard.restrictedTo [.deployProductionHotfix]
  | _ => if p.hasHook "hotfix" then s.guard.without .deployProductionHotfix else s.guard

def jobs (p : Pipeline) (k : WorkflowKind) : List (String × Job) :=
  match k with
  | .main =>
    o.classifiedJobs p none (guardIn p k) (Expression.embed (classifyOutputs ++ ".environment"))
  | .hotfix =>
    o.classifiedJobs p
      (some ("contains(github.event.release.tag_name, '" ++ Tag.hotfixMarker ++ "')"))
      (guardIn p k) "production"
  | .rollback => o.rollbackJobs p

def envIn (p : Pipeline) (k : WorkflowKind) : Dict String :=
  match k with
  | .rollback => (o.workflowEnv p).insert "ROLLBACK_TAG" (Expression.embed "inputs.tag")
  | _ => o.workflowEnv p

def workflow (p : Pipeline) (k : WorkflowKind) : Workflow :=
  ⟨o.appName ++ " " ++ k.name, triggers k, o.envIn p k, o.jobs p k⟩

/-! ## Documents -/

/-- Comment lines before a workflow. -/
def header (p : Pipeline) : String :=
  let secrets := if p.secrets.isEmpty then "none" else String.intercalate ", " p.secrets.keys
  "# Generated by cigen for " ++ o.appName ++
    ". Edit freely; cigen is not needed to run it.\n# Required secrets: " ++ secrets ++ "\n"

/-- What is written of a workflow. -/
def document (p : Pipeline) (k : WorkflowKind) : WorkflowDocument := (o.workflow p k).toDocument

def render (p : Pipeline) (k : WorkflowKind) : String := o.header p ++ (o.document p k).print

end EmitOptions

/-- The workflows that a pipeline has. -/
def Pipeline.workflowKinds (p : Pipeline) : List WorkflowKind :=
  .main :: (if p.hasHook "hotfix" then [.hotfix] else []) ++
    (if p.hasHook "rollback" then [.rollback] else [])

/-- A workflow's file and its text. -/
structure WorkflowFile where
  fileName : String
  content : String
  deriving DecidableEq, Repr

def EmitOptions.emit (o : EmitOptions) (p : Pipeline) : List WorkflowFile :=
  p.workflowKinds.map fun k => ⟨k.fileName, o.render p k⟩

end PipeLoom
