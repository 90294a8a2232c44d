import PipeLoom.Text.Blank
import PipeLoom.Text.Caseless

/-!
# Axes

The dimensions of a request for a pipeline, in the order in which their fragments are applied.
-/

namespace PipeLoom

inductive Axis where
  | language | packageManager | framework | provider | service | hooks
  deriving DecidableEq, Repr

namespace Axis

/-- Every axis, in precedence order. -/
def all : List Axis := [language, packageManager, framework, provider, service, hooks]

theorem mem_all (a : Axis) : a ∈ all := by cases a <;> decide

/-- Place in the precedence order. -/
def rank : Axis → Nat
  | language => 0
  | packageManager => 1
  | framework => 2
  | provider => 3
  | service => 4
  | hooks => 5

def name : Axis → String
  | language => "language"
  | packageManager => "package-manager"
  | framework => "framework"
  | provider => "provider"
  | service => "service"
  | hooks => "hooks"

/-- The lower-case words a user may write for the axis. -/
def spellings : Axis → List String
  | packageManager => ["package-manager", "package_manager", "packagemanager"]
  | hooks => ["hooks", "hook"]
  | a => [a.name]

/-- The axis a user means, in any letter case and with blanks around it. -/
def ofText? (s : String) : Option Axis :=
  let word := Text.lower (Text.trim s)
  all.find? fun a => a.spellings.contains word

/-- The axis of exactly this name. -/
def ofName? (s : String) : Option Axis := all.find? fun a => a.name == s

theorem ofName?_name (a : Axis) : ofName? a.name = some a := by cases a <;> decide

theorem ofText?_name (a : Axis) : ofText? a.name = some a := by cases a <;> decide +kernel

/-- Whether a selection must give a value. -/
def isRequired : Axis → Bool
  | framework | hooks => false
  | _ => true

/-- Whether a selection may give several values. -/
def isMultiValued : Axis → Bool
  | hooks => true
  | _ => false

end Axis

end PipeLoom
