import PipeLoom.Fragment
import PipeLoom.Guard

/-!
# Pipelines

What the chosen fragments amount to: setup steps shared by every job, stages in canonical order,
environment and secrets.
-/

namespace PipeLoom

/-- One stage of a pipeline; it becomes one job. -/
structure Stage where
  name : StageName
  steps : List Step
  guard : Guard

namespace Stage

/-- A stage with the guard of its kind. -/
def new (name : StageName) (steps : List Step) : Stage := ⟨name, steps, .ofKind name.kind⟩

def step? (s : Stage) (name : String) : Option Step := s.steps.find? (·.name == name)

end Stage

structure Pipeline where
  setup : List Step
  stages : List Stage
  env : Dict String
  secrets : NameSet
  warnings : List String
  /-- The fragments composed, in precedence order. -/
  fragments : List FragmentRef

namespace Pipeline

def stage? (p : Pipeline) (name : StageName) : Option Stage := p.stages.find? (·.name == name)

def hasHook (p : Pipeline) (hook : String) : Bool := p.fragments.contains ⟨.hooks, hook⟩

def stepCount (p : Pipeline) : Nat := (p.stages.flatMap (·.steps)).length

end Pipeline

end PipeLoom
