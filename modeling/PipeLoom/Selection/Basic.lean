import PipeLoom.Fragment
import PipeLoom.Selection.Raw

/-!
# Selections

A checked choice of one value for each required axis, at most one framework, and hooks.
-/

namespace PipeLoom

structure Selection where
  language : String
  packageManager : String
  framework : Option String
  provider : String
  service : String
  /-- In the order in which the catalogue declares them. -/
  hooks : List String
  deriving DecidableEq, Repr

namespace Selection

/-- The selected values of an axis. -/
def values (s : Selection) : Axis → List String
  | .language => [s.language]
  | .packageManager => [s.packageManager]
  | .framework => s.framework.toList
  | .provider => [s.provider]
  | .service => [s.service]
  | .hooks => s.hooks

/-- The value of an axis that takes a single one. -/
def get? (s : Selection) (a : Axis) : Option String :=
  if a.isMultiValued then none else (s.values a).head?

def hasHook (s : Selection) (hook : String) : Bool := s.hooks.contains hook

/-- The selected fragments in precedence order, hooks last. -/
def fragments (s : Selection) : List FragmentRef :=
  Axis.all.flatMap fun a => (s.values a).map (FragmentRef.mk a)

/-- The selection as a user would write it, to be resolved again. -/
def toRaw (s : Selection) : RawSelection :=
  let single := Axis.all.foldl (fun raw a => raw.setOptional a.name (s.get? a)) (∅ : RawSelection)
  if s.hooks.isEmpty then single else single.setMany Axis.hooks.name s.hooks

end Selection

end PipeLoom
