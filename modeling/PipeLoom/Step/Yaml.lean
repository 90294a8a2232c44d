import PipeLoom.Step
import PipeLoom.Yaml.Node.Fields

/-!
# Steps as YAML

A step is written as a mapping; what is empty is left out. The fields that tell a command from an
action stand beside the others, and a step that can be read as a command is one.
-/

namespace PipeLoom

open Yaml (Node)

namespace Action

def fields : Action → List (String × Node)
  | run command => [("run", .text command)]
  | uses action inputs => ("uses", .text action) :: Node.dictField "with" inputs

def runOf? (es : List (Node × Node)) : Option Action := do
  match ← Node.fieldsFrom? true es 0 ["run"] with
  | [some command] => return .run (← command.text?)
  | _ => none

def usesOf? (es : List (Node × Node)) : Option Action := do
  match ← Node.fieldsFrom? true es 0 ["uses", "with"] with
  | [some action, inputs] =>
    return .uses (← action.text?) (← Node.orElse ∅ (Node.dict? false) inputs)
  | _ => none

/-- The action that some fields make up. -/
def ofFields? (es : List (Node × Node)) : Option Action := (runOf? es).or (usesOf? es)

end Action

namespace Step

def toNode (s : Step) : Node :=
  .record <|
    [("name", .text s.name)] ++ Node.optionalField "id" s.id ++ Node.optionalField "if" s.guard ++
      s.action.fields ++ Node.dictField "env" s.env

/-- The fields of a step itself; the rest are those of its action. -/
def ownFields : List String := ["name", "id", "if", "env"]

def isOwnKey (k : Node) : Bool := k.text?.any ownFields.contains

/-- A step from its mapping. Where `kept`, keys are texts and a null environment is empty. -/
def ofNode? (kept : Bool) (n : Node) : Option Step := do
  match n.untagged with
  | .map es =>
    if !es.all fun e => Node.isFieldKey (!kept) e.1 then none
    let rest := es.filter fun e => !isOwnKey e.1
    if rest.any fun e => e.2.hasTag then none
    match ← Node.fieldsFrom? false es 0 ownFields with
    | [some name, id, guard, env] =>
      return {
        name := ← name.text?
        id := ← Node.optional? Node.text? id
        guard := ← Node.optional? Node.text? guard
        action := ← Action.ofFields? rest
        env := ← Node.orElse ∅ (Node.dict? kept) env
      }
    | _ => none
  | _ => none

end Step

end PipeLoom
