import PipeLoom.Selection.Raw
import PipeLoom.Yaml.Node.Fields
import PipeLoom.Yaml.Node.Print
import PipeLoom.Yaml.Record

/-!
# Raw selections as YAML
-/

namespace PipeLoom

open Yaml (Node Document)

namespace RawValue

def toNode : RawValue → Node
  | one v => .text v
  | many vs => Node.ofTexts vs

def ofNode? (n : Node) : Option RawValue :=
  (n.text?.map one).or (n.texts?.map many)

end RawValue

namespace RawSelection

def toNode (raw : RawSelection) : Node :=
  .record (raw.entries.map fun e => (e.1, e.2.toNode))

def print (raw : RawSelection) : String := raw.toNode.print

/-- A selection inside a document that is nested `depth` levels at most. -/
def read (d : Document) (depth : Nat) (t : Yaml.Tree) : Document.Reading RawSelection :=
  d.dict (fun v => do
    match RawValue.ofNode? (← d.value Document.untagged depth v) with
    | some v => return v
    | none => Document.fail) t

def ofText? (s : String) : Option RawSelection := do
  let d ← Document.ofText? s
  match d.root with
  | none => some ∅
  | some t => (read d (Document.maxDepth - 1) t).run' 0

end RawSelection

end PipeLoom
