import PipeLoom.Catalogue.Basic
import PipeLoom.Pipeline.Basic
import PipeLoom.Pipeline.EnvReference
import PipeLoom.Selection.Basic

/-!
# Composition

A pipeline is put together from the selected fragments in precedence order. A step of a fragment
that is no hook replaces the step of its name; a step of a hook is always added, under a free name.
-/

namespace PipeLoom

/-- Why fragments cannot be composed. Those of a verified catalogue always can. -/
inductive ComposeError where
  | missingFragment (fragment : FragmentRef)
  | unknownStage (fragment : FragmentRef) (stage : String)
  | notAHook (fragment : FragmentRef) (stage : StageName)
  deriving DecidableEq, Repr

def ComposeError.message : ComposeError → String
  | missingFragment f => "selected fragment " ++ f.text ++ " is not in the catalogue"
  | unknownStage f stage => f.text ++ " targets unknown stage '" ++ stage ++ "'"
  | notAHook f stage => f.text ++ " is not a hook but targets hook stage '" ++ stage.name ++ "'"

/-! ## Lists of steps -/

/-- Puts a step in the place of the first of its name, or at the end. -/
def overrideStep (s : Step) : List Step → List Step
  | [] => [s]
  | t :: ts => if t.name = s.name then s :: ts else t :: overrideStep s ts

/-- The first free name of `base n`, `base (n + 1)`, …, given how many names are taken at most. The
number is taken without a bound: it outgrows a signed number of 32 bits only where two thousand
million names are taken. -/
def freeName (taken : List String) (base : String) (n : Nat) : Nat → String
  | 0 => base ++ " " ++ toString n
  | k + 1 =>
    let candidate := base ++ " " ++ toString n
    if taken.contains candidate then freeName taken base (n + 1) k else candidate

/-- A name for a hook's step that no name taken equals: its own if that is free, else its own with
the hook, else that with the least number from 2 on, whatever its size. -/
def hookStepName (taken : List String) (name hook : String) : String :=
  let base := name ++ " (" ++ hook ++ ")"
  if !taken.contains name then name
  else if !taken.contains base then base
  else freeName taken base 2 taken.length

def appendHookStep (steps : List Step) (s : Step) (hook : String) : List Step :=
  steps ++ [{ s with name := hookStepName (steps.map (·.name)) s.name hook }]

/-! ## One fragment -/

namespace Fragment

/-- The first thing that keeps a contribution from being composed. -/
def contributionError? (f : Fragment) (c : Contribution) : Option ComposeError :=
  match c.stageName? with
  | none => some (.unknownStage f.ref c.stage)
  | some stage => if stage.isHookStage && !f.isHook then some (.notAHook f.ref stage) else none

def targets (f : Fragment) (stage : StageName) : Bool :=
  f.contributions.any fun c => c.stageName? == some stage

/-- The steps the fragment contributes to a stage. -/
def stepsFor (f : Fragment) (stage : StageName) : List Step :=
  (f.contributions.filter fun c => c.stageName? == some stage).flatMap (·.steps)

/-- Adds one step of the fragment to those of a stage. -/
def place (f : Fragment) (steps : List Step) (s : Step) : List Step :=
  if f.isHook then appendHookStep steps s f.value else overrideStep s steps

end Fragment

/-! ## All fragments -/

namespace Pipeline

/-- The names that every workflow defines by itself. -/
def builtinEnv : List String := ["APP_NAME", "EMERGENCY_MODE"]

def setupOf (fs : List Fragment) : List Step :=
  (fs.flatMap (·.setup)).foldl (fun steps s => overrideStep s steps) []

def stepsOf (fs : List Fragment) (stage : StageName) : List Step :=
  fs.foldl (fun steps f => (f.stepsFor stage).foldl f.place steps) []

/-- A stage exists where some fragment contributes to it. -/
def stagesOf (fs : List Fragment) : List Stage :=
  (StageName.all.filter fun n => fs.any (·.targets n)).map fun n => .new n (stepsOf fs n)

def envOf (fs : List Fragment) : Dict String := fs.foldl (fun env f => env.override f.env) ∅

def secretsOf (fs : List Fragment) : NameSet := fs.foldl (fun s f => s.override f.secrets) ∅

/-- The names that a guard may refer to. -/
def declaredOf (fs : List Fragment) : List String := fs.flatMap (·.declaredNames) ++ builtinEnv

/-- A warning for each reference of a step's guard to a name that is not declared. -/
def stepWarnings (declared : List String) (scope : String) (s : Step) : List String :=
  ((s.guard.map EnvReference.names).getD []).filterMap fun name =>
    if declared.contains name then none
    else some ("step '" ++ s.name ++ "' in " ++ scope ++ " guards on env." ++ name ++
      ", which no selected fragment declares")

def warningsOf (declared : List String) (setup : List Step) (stages : List Stage) : List String :=
  setup.flatMap (stepWarnings declared "setup") ++
    stages.flatMap fun st => st.steps.flatMap (stepWarnings declared st.name.name)

/-- The pipeline of fragments that can be composed. -/
def ofFragments (fs : List Fragment) (refs : List FragmentRef) : Pipeline where
  setup := setupOf fs
  stages := stagesOf fs
  env := envOf fs
  secrets := secretsOf fs
  warnings := warningsOf (declaredOf fs) (setupOf fs) (stagesOf fs)
  fragments := refs

end Pipeline

namespace Catalogue

/-- The fragments of a selection, if all stand in the catalogue. -/
def fragmentsOf (c : Catalogue) (s : Selection) : Except ComposeError (List Fragment) :=
  s.fragments.mapM fun r =>
    match c.find? r with
    | some f => .ok f
    | none => .error (.missingFragment r)

def compose (c : Catalogue) (s : Selection) : Except ComposeError Pipeline := do
  let fs ← c.fragmentsOf s
  match fs.findSome? (fun f => f.contributions.findSome? f.contributionError?) with
  | some e => .error e
  | none => .ok (.ofFragments fs s.fragments)

end Catalogue

end PipeLoom
