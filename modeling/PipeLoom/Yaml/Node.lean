/-!
# YAML values

A value is null, a scalar, a list, or a mapping whose entries keep their order; a tag of the
document's own may stand before it.
-/

namespace PipeLoom.Yaml

inductive Node where
  | null
  | bool (value : Bool)
  | int (value : Int)
  /-- A floating-point number, by its shortest text. -/
  | float (text : String)
  | text (value : String)
  | list (items : List Node)
  | map (entries : List (Node × Node))
  | tagged (tag : String) (value : Node)
  deriving Inhabited

namespace Node

/-- The value without its tag. -/
def untagged : Node → Node
  | tagged _ v => v
  | v => v

/-- A mapping with text keys. -/
def record (fields : List (String × Node)) : Node := map (fields.map fun f => (text f.1, f.2))

/-! ## Equality

Mappings are equal when they have the same entries in any order. -/

/-- The text of a number with a negative zero made positive. -/
def unsignedZero (s : String) : String := if s = "-0.0" then "0.0" else s

mutual

def same : Node → Node → Bool
  | null, null => true
  | bool a, bool b => a == b
  | int a, int b => a == b
  | float a, float b => unsignedZero a == unsignedZero b
  | text a, text b => a == b
  | list xs, list ys => sameItems xs ys
  | map es, map fs => es.length == fs.length && sameEntries es fs
  | tagged s a, tagged t b => s == t && same a b
  | _, _ => false

def sameItems : List Node → List Node → Bool
  | [], [] => true
  | x :: xs, y :: ys => same x y && sameItems xs ys
  | _, _ => false

/-- Whether all entries of the first list are in the second. -/
def sameEntries : List (Node × Node) → List (Node × Node) → Bool
  | [], _ => true
  | (k, v) :: es, fs => fs.any (fun f => same k f.1 && same v f.2) && sameEntries es fs

end

/-- Whether two entries have the same key. -/
def hasRepeatedKey : List (Node × Node) → Bool
  | [] => false
  | (k, _) :: es => es.any (fun e => same k e.1) || hasRepeatedKey es

end Node

end PipeLoom.Yaml
