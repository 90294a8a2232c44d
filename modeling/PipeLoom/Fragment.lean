import PipeLoom.Axis
import PipeLoom.StageName
import PipeLoom.Step

/-!
# Fragments

A fragment is what one value of an axis adds to a pipeline: setup steps, steps for stages,
environment, secrets and settings, with the values it needs beside it and those it cannot stand
beside.
-/

namespace PipeLoom

/-- A value of an axis. -/
structure FragmentRef where
  axis : Axis
  value : String
  deriving DecidableEq, Repr

namespace FragmentRef

def text (r : FragmentRef) : String := r.axis.name ++ ":" ++ r.value

/-- Axis precedence first, then the value. -/
def le (r s : FragmentRef) : Bool :=
  r.axis.rank < s.axis.rank || (r.axis.rank == s.axis.rank && decide (r.value ≤ s.value))

end FragmentRef

/-- Steps for one stage. The stage stays a text until the catalogue is verified. -/
structure Contribution where
  stage : String
  steps : List Step
  deriving DecidableEq

/-- The stage meant, if there is one of that name. -/
def Contribution.stageName? (c : Contribution) : Option StageName := StageName.ofName? c.stage

/-- One of the values must be selected on the axis. -/
structure Requirement where
  axis : Axis
  anyOf : List String
  deriving DecidableEq, Repr

namespace Requirement

def isSatisfiedBy (r : Requirement) (selected : List String) : Bool :=
  selected.any fun v => r.anyOf.contains v

def text (r : Requirement) : String :=
  match r.anyOf with
  | [v] => r.axis.name ++ ":" ++ v
  | vs => r.axis.name ++ " in [" ++ String.intercalate ", " vs ++ "]"

end Requirement

/-- A value that must not be selected as well. -/
structure Exclusion where
  fragment : FragmentRef
  reason : Option String
  deriving DecidableEq, Repr

structure Fragment where
  axis : Axis
  value : String
  /-- The name shown to users. -/
  name : String
  description : String
  /-- Steps at the start of every job. -/
  setup : List Step
  contributions : List Contribution
  requires : List Requirement
  excludes : List Exclusion
  env : Dict String
  secrets : NameSet
  /-- Fields of the provider document. -/
  settings : Dict String
  deriving DecidableEq

namespace Fragment

/-- A fragment that adds nothing. -/
def new (axis : Axis) (value name : String) : Fragment :=
  ⟨axis, value, name, "", [], [], [], [], ∅, ∅, ∅⟩

def ref (f : Fragment) : FragmentRef := ⟨f.axis, f.value⟩

def isHook (f : Fragment) : Bool := f.axis == .hooks

/-- The first exclusion of `r` that the fragment declares. -/
def exclusionOf? (f : Fragment) (r : FragmentRef) : Option Exclusion :=
  f.excludes.find? (·.fragment == r)

/-- The variables and secrets that the fragment declares. -/
def declaredNames (f : Fragment) : List String := f.env.keys ++ f.secrets.keys

/-! ## Building a fragment step by step -/

def describe (f : Fragment) (description : String) : Fragment := { f with description }

def addSetup (f : Fragment) (s : Step) : Fragment := { f with setup := f.setup ++ [s] }

/-- Puts a step at the end of the first contribution to the stage, or opens one. -/
def addTo (stage : String) (s : Step) : List Contribution → List Contribution
  | [] => [⟨stage, [s]⟩]
  | c :: cs => if c.stage = stage then { c with steps := c.steps ++ [s] } :: cs
    else c :: addTo stage s cs

def addStep (f : Fragment) (stage : StageName) (s : Step) : Fragment :=
  { f with contributions := addTo stage.name s f.contributions }

def addRequirement (f : Fragment) (axis : Axis) (anyOf : List String) : Fragment :=
  { f with requires := f.requires ++ [⟨axis, anyOf⟩] }

def addExclusion (f : Fragment) (axis : Axis) (value reason : String) : Fragment :=
  { f with excludes := f.excludes ++ [⟨⟨axis, value⟩, some reason⟩] }

def addEnv (f : Fragment) (key value : String) : Fragment :=
  { f with env := f.env.insert key value }

def addSecret (f : Fragment) (name : String) : Fragment := { f with secrets := f.secrets.add name }

def addSetting (f : Fragment) (key value : String) : Fragment :=
  { f with settings := f.settings.insert key value }

end Fragment

end PipeLoom
