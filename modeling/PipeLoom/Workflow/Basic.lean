import PipeLoom.Step.Yaml
import PipeLoom.Yaml.Node.Print
import PipeLoom.Yaml.Record

/-!
# Workflows

A workflow is a name, the events that start it, its environment and its jobs in order. Its document
keeps every job as a value, so that one job that cannot be read leaves the others readable.
-/

namespace PipeLoom

open Yaml (Node Document)

structure Job where
  name : String
  runsOn : String
  /-- The jobs that have to end before this one starts. -/
  needs : List String
  condition : Option String
  environment : Option String
  outputs : Dict String
  env : Dict String
  steps : List Step
  deriving DecidableEq

namespace Job

def toNode (j : Job) : Node :=
  .record <|
    [("name", .text j.name), ("runs-on", .text j.runsOn)] ++
      (if j.needs.isEmpty then [] else [("needs", Node.ofTexts j.needs)]) ++
      Node.optionalField "if" j.condition ++ Node.optionalField "environment" j.environment ++
      Node.dictField "outputs" j.outputs ++ Node.dictField "env" j.env ++
      [("steps", .list (j.steps.map Step.toNode))]

def fieldNames : List String :=
  ["name", "runs-on", "needs", "if", "environment", "outputs", "env", "steps"]

def ofNode? (n : Node) : Option Job := do
  match n.untagged with
  | .map es =>
    match ← Node.fieldsOf? false fieldNames es with
    | [some name, some runsOn, needs, condition, environment, outputs, env, some steps] =>
      return {
        name := ← name.text?
        runsOn := ← runsOn.text?
        needs := ← Node.orElse [] (·.list? true Node.text?) needs
        condition := ← Node.optional? Node.text? condition
        environment := ← Node.optional? Node.text? environment
        outputs := ← Node.orElse ∅ (Node.dict? true) outputs
        env := ← Node.orElse ∅ (Node.dict? true) env
        steps := ← steps.list? true (Step.ofNode? true)
      }
    | _ => none
  | _ => none

end Job

structure Workflow where
  name : String
  triggers : Node
  env : Dict String
  /-- Jobs by their ids, in the order in which they run. -/
  jobs : List (String × Job)

/-- A workflow with its jobs unread. -/
structure WorkflowDocument where
  name : String
  triggers : Node
  env : Dict String
  jobs : List (Node × Node)

namespace WorkflowDocument

/-- The ids that are texts. -/
def jobIds (w : WorkflowDocument) : List String :=
  w.jobs.filterMap fun e =>
    match e.1 with
    | .text id => some id
    | _ => none

/-- The job of an id, if its value is a job. -/
def job? (w : WorkflowDocument) (id : String) : Option Job := do
  let (_, n) ← w.jobs.find? fun e => e.1.same (.text id)
  Job.ofNode? n

def toNode (w : WorkflowDocument) : Node :=
  .record <|
    [("name", .text w.name), ("on", w.triggers)] ++ Node.dictField "env" w.env ++
      [("jobs", .map w.jobs)]

def print (w : WorkflowDocument) : String := w.toNode.print

def read (d : Document) : Document.Reading WorkflowDocument := do
  match ← d.fields ["name", "on", "env", "jobs"] with
  | [name, triggers, env, jobs] =>
    let name ← Document.required d.text name
    let triggers ← Document.required (d.inner Document.kept) triggers
    let env ← match env with
      | some t => d.dict d.text t
      | none => pure ∅
    let jobs ← Document.required d.follow jobs
    match jobs with
    | .map _ es =>
      match ← d.inner Document.kept (.map none es) with
      | .map jobs => return { name, triggers, env, jobs }
      | _ => Document.fail
    | .scalar _ s isPlain =>
      if s.isEmpty && isPlain then return { name, triggers, env, jobs := [] } else Document.fail
    | _ => Document.fail
  | _ => Document.fail

def ofText? (s : String) : Option WorkflowDocument := do
  let d ← Document.ofText? s
  (read d).run' 0

end WorkflowDocument

namespace Workflow

/-- Puts a job in the place of the first of its id, or at the end. -/
def insertJob (id : String) (job : Job) : List (String × Job) → List (String × Job)
  | [] => [(id, job)]
  | e :: es => if e.1 = id then (id, job) :: es else e :: insertJob id job es

def toDocument (w : Workflow) : WorkflowDocument :=
  ⟨w.name, w.triggers, w.env, w.jobs.map fun e => (.text e.1, e.2.toNode)⟩

end Workflow

end PipeLoom
