import PipeLoom.Fragment
import PipeLoom.Step.Yaml
import PipeLoom.Yaml.Node.Read

/-!
# Fragments as YAML

A fragment file holds a list of fragments under the key `fragments`, or a single fragment.
-/

namespace PipeLoom

open Yaml (Node Document)

/-- An axis by its name, also as the only key of a mapping to null; there its place will do. -/
def Axis.ofNode? : Node → Option Axis
  | .text s => Axis.ofName? s
  | .map [(.text s, .null)] => Axis.ofName? s
  | .map [(.int i, .null)] => if i < 0 then none else Axis.all[i.toNat]?
  | _ => none

def Contribution.ofNode? (n : Node) : Option Contribution := do
  match ← n.fields? ["stage", "steps"] with
  | [some stage, some steps] =>
    return ⟨← stage.text?, ← steps.list? false (Step.ofNode? false)⟩
  | _ => none

def Requirement.ofNode? (n : Node) : Option Requirement := do
  match ← n.fields? ["axis", "any_of"] with
  | [some axis, some anyOf] => return ⟨← Axis.ofNode? axis, ← anyOf.texts?⟩
  | _ => none

/-- An exclusion from its mapping; the axis and the value stand beside the reason. -/
def Exclusion.ofNode? : Node → Option Exclusion
  | .map es => do
    if !es.all fun e => Node.isFieldKey true e.1 then none
    match ← Node.fieldsFrom? false es 0 ["axis", "value", "reason"] with
    | [some axis, some value, reason] =>
      return ⟨⟨← Axis.ofNode? axis, ← value.text?⟩, ← Node.optional? Node.text? reason⟩
    | _ => none
  | _ => none

namespace Fragment

def fieldNames : List String :=
  ["axis", "value", "name", "description", "setup", "contributions", "requires", "excludes", "env",
    "secrets", "settings"]

def ofNode? (n : Node) : Option Fragment := do
  match ← n.fields? fieldNames with
  | [some axis, some value, some name, description, setup, contributions, requires, excludes, env,
      secrets, settings] =>
    return {
      axis := ← Axis.ofNode? axis
      value := ← value.text?
      name := ← name.text?
      description := ← Node.orElse "" Node.text? description
      setup := ← Node.orElse [] (·.list? false (Step.ofNode? false)) setup
      contributions := ← Node.orElse [] (·.list? false Contribution.ofNode?) contributions
      requires := ← Node.orElse [] (·.list? false Requirement.ofNode?) requires
      excludes := ← Node.orElse [] (·.list? false Exclusion.ofNode?) excludes
      env := ← Node.orElse ∅ (Node.dict? false) env
      secrets := ← (Node.orElse [] Node.texts? secrets).map NameSet.ofList
      settings := ← Node.orElse ∅ (Node.dict? false) settings
    }
  | _ => none

def listOfNode? (n : Node) : Option (List Fragment) := do
  match ← n.fields? ["fragments"] with
  | [some fragments] => fragments.list? false ofNode?
  | _ => none

/-- The fragments of a file. -/
def readAll? (s : String) : Option (List Fragment) := do
  let n ← (← Document.ofText? s).root? Document.untagged
  (listOfNode? n).or ((ofNode? n).map ([·]))

end Fragment

end PipeLoom
