import PipeLoom.Fragment

/-!
# Issues of a selection

The reasons why a raw selection cannot be used, and the report that lists them.
-/

namespace PipeLoom

inductive Issue where
  | missingAxis (axis : Axis)
  | unknownAxis (key : String)
  | multipleValues (axis : Axis) (values : List String)
  | unknownFragment (axis : Axis) (value : String)
  | conflict (first second : FragmentRef) (reason : String)
  | unmetRequirement (fragment : FragmentRef) (missing : Requirement)
  deriving DecidableEq, Repr

namespace Issue

def text : Issue → String
  | missingAxis axis => "missing required axis '" ++ axis.name ++ "'"
  | unknownAxis key => "unknown axis '" ++ key ++ "'"
  | multipleValues axis values =>
    "axis '" ++ axis.name ++ "' takes a single value, got [" ++ String.intercalate ", " values ++
      "]"
  | unknownFragment axis value => "unknown " ++ axis.name ++ " '" ++ value ++ "'"
  | conflict first second reason =>
    first.text ++ " conflicts with " ++ second.text ++ ": " ++ reason
  | unmetRequirement fragment missing => fragment.text ++ " requires " ++ missing.text

def isConflict : Issue → Bool
  | conflict _ _ _ => true
  | _ => false

/-- The report of all issues: their number, then each on a line of its own. -/
def report (is : List Issue) : String :=
  "incompatible selection (" ++ toString is.length ++ " issue" ++
    (if is.length = 1 then "" else "s") ++ ")" ++
    String.join (is.map fun i => "\n  - " ++ i.text)

end Issue

end PipeLoom
