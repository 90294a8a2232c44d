import PipeLoom.Axis
import PipeLoom.Dict

/-!
# Raw selections

What a user asks for, before it is checked: keys that should name axes, each with one value or a
list. `given` collects the values meant for an axis, whatever the spelling of its key.
-/

namespace PipeLoom

inductive RawValue where
  | one (value : String)
  | many (values : List String)
  deriving DecidableEq, Repr

def RawValue.toList : RawValue → List String
  | one v => [v]
  | many vs => vs

abbrev RawSelection := Dict RawValue

namespace RawSelection

def set (raw : RawSelection) (key value : String) : RawSelection := raw.insert key (.one value)

def setMany (raw : RawSelection) (key : String) (values : List String) : RawSelection :=
  raw.insert key (.many values)

/-- Leaves the selection as it is where there is no value. -/
def setOptional (raw : RawSelection) (key : String) (value : Option String) : RawSelection :=
  match value with
  | some v => raw.set key v
  | none => raw

/-- Adds hooks after those under the key `hooks`. -/
def addHooks (raw : RawSelection) (hooks : List String) : RawSelection :=
  let before := ((raw.get? Axis.hooks.name).map RawValue.toList).getD []
  raw.setMany Axis.hooks.name (before ++ hooks)

/-- A value that stands for no choice: nothing, or `none` in any letter case. -/
def isNoValue (v : String) : Bool := v == "" || Text.eqIgnoreAsciiCase v "none"

/-- The values meant for an axis, trimmed, without those that stand for no choice. -/
def given (raw : RawSelection) (a : Axis) : List String :=
  raw.entries.flatMap fun e =>
    if Axis.ofText? e.1 = some a then
      (e.2.toList.map Text.trim).filter fun v => !isNoValue v
    else []

/-- The keys that name no axis. -/
def unknownKeys (raw : RawSelection) : List String :=
  raw.keys.filter fun k => (Axis.ofText? k).isNone

end RawSelection

end PipeLoom
