import PipeLoom.Yaml.Double
import PipeLoom.Yaml.Node
import PipeLoom.Yaml.Tree

/-!
# Reading values

What the scalars of a document stand for, and its references followed. Nesting is limited to 128
levels and the number of references followed to a hundred times the size of the document, so that
a document that refers to itself has no value.
-/

namespace PipeLoom.Yaml

/-! ## Scalars -/

/-- Integers have 64 bits. -/
def isWord (i : Int) : Bool := -(Nat.pow 2 63 : Int) ≤ i && i < (Nat.pow 2 64 : Int)

def standardTag (name : String) : String := "tag:yaml.org,2002:" ++ name

/-- Tags of a document's own start with an exclamation mark. -/
def isOwnTag (tag : String) : Bool := tag.toList.head? == some '!'

namespace Node

def ofInt? (i : Int) : Option Node := if isWord i then some (int i) else none

/-- A scalar without a tag. -/
def ofScalar? (s : String) ( isPlain : Bool) : Option Node :=
  if !isPlain then some (text s)
  else
    match Scalar.resolve s with
    | .null => some null
    | .bool b => some (bool b)
    | .int i => ofInt? i
    | .float _ => (Scalar.floatText? s.toList).map float
    | .text => some (text s)

/-- A scalar whose tag is no tag of the document's own: the tags of the basic types must fit, and
with any other tag it is a text. -/
def ofTagged? (tag s : String) : Option Node :=
  if tag = standardTag "bool" then (Scalar.bool? s).map bool
  else if tag = standardTag "int" then (Scalar.int? s.toList).bind ofInt?
  else if tag = standardTag "float" then (Scalar.floatText? s.toList).map float
  else if tag = standardTag "null" then
    if Scalar.isNull s && !s.isEmpty then some null else none
  else some (text s)

end Node

/-! ## References -/

namespace Document

/-- Reading counts the references that it follows. -/
abbrev Reading := StateT Nat Option

def fail {α : Type} : Reading α := fun _ => none

/-- The tree itself or what it refers to. -/
def follow (d : Document) : Tree → Reading Tree
  | .reference number => fun followed =>
    if 100 * d.size ≤ followed then none
    else (d.target? number).map fun t => (t, followed + 1)
  | t => pure t

/-- What a value may hold. -/
structure Strictness where
  ownTags : Bool
  repeatedKeys : Bool

/-- Values without tags of their own; keys may repeat. -/
def untagged : Strictness := ⟨false, true⟩

/-- Values that are kept: tags stay and keys are unique. -/
def kept : Strictness := ⟨true, false⟩

/-- A value behind its tag; a tag kept with the value has a name. -/
def own (r : Strictness) (tag : Option String) (v : Node) : Reading Node :=
  match tag with
  | some tag =>
    if !isOwnTag tag then return v
    else if r.ownTags && tag != "!" then return .tagged tag v
    else fail
  | none => return v

/-- The value of a tree that is no reference. Its parts are read by `part?`; without it, no further
level may follow. -/
def valueOf (r : Strictness) (part? : Option (Tree → Reading Node)) : Tree → Reading Node
  | .scalar tag s isPlain =>
    match tag with
    | some t => do
      if isOwnTag t then own r tag (← (Node.ofScalar? s isPlain : Option Node))
      else (Node.ofTagged? t s : Option Node)
    | none => (Node.ofScalar? s isPlain : Option Node)
  | .list tag items =>
    match part? with
    | some part => do own r tag (.list (← items.mapM part))
    | none => fail
  | .map tag entries =>
    match part? with
    | some part => do
      let entries ← entries.mapM fun e => do return (← part e.1, ← part e.2)
      if !r.repeatedKeys && Node.hasRepeatedKey entries then fail else own r tag (.map entries)
    | none => fail
  | .reference _ => fail

/-- The value of a tree with at most `depth` levels. -/
def value (d : Document) (r : Strictness) : Nat → Tree → Reading Node
  | 0, t => do valueOf r none (← d.follow t)
  | depth + 1, t => do valueOf r (some (d.value r depth)) (← d.follow t)

/-- The greatest number of levels. -/
def maxDepth : Nat := 128

def root? (d : Document) (r : Strictness) : Option Node :=
  match d.root with
  | none => some .null
  | some t => (d.value r maxDepth t).run' 0

end Document

end PipeLoom.Yaml
