import PipeLoom.Dict
import PipeLoom.Yaml.Node

/-!
# Taking values apart

Texts, lists, dictionaries and records out of a value. A tag before a value is passed over. A record
is a mapping from the names of its fields, in which a field may be given once; where numbers count,
a number is the place of a field, and the record may also be the list of its fields.
-/

namespace PipeLoom.Yaml

namespace Node

def text? (n : Node) : Option String :=
  match n.untagged with
  | text s => some s
  | _ => none

/-- A field that may be absent or null. -/
def optional? {α : Type} (read : Node → Option α) : Option Node → Option (Option α)
  | none => some none
  | some n =>
    match n.untagged with
    | null => some none
    | _ => (read n).map some

/-- A list; null stands for the empty one where `nullIsEmpty`. -/
def list? {α : Type} (nullIsEmpty : Bool) (read : Node → Option α) (n : Node) : Option (List α) :=
  match n.untagged with
  | list xs => xs.mapM read
  | null => if nullIsEmpty then some [] else none
  | _ => none

def texts? (n : Node) : Option (List String) := n.list? false text?

/-- A dictionary of texts; of two entries with one key the later counts. -/
def dict? (nullIsEmpty : Bool) (n : Node) : Option (Dict String) :=
  match n.untagged with
  | map es => do
    let es ← es.mapM fun e => do return (← e.1.text?, ← e.2.text?)
    return .ofList es
  | null => if nullIsEmpty then some ∅ else none
  | _ => none

/-- A field with a value to use where it is absent. -/
def orElse {α : Type} (absent : α) (read : Node → Option α) : Option Node → Option α
  | none => some absent
  | some n => read n

/-! ## Records -/

/-- Whether a key can name a field at all. -/
def isFieldKey (numbered : Bool) (k : Node) : Bool :=
  match k.untagged with
  | text _ => true
  | int i => numbered && 0 ≤ i
  | _ => false

/-- Whether the key names the field, by its name or its place. -/
def isKeyOf (numbered : Bool) (field : String) (place : Nat) (k : Node) : Bool :=
  match k.untagged with
  | text s => s == field
  | int i => numbered && i == place
  | _ => false

/-- The values of the named fields, in the order of the names. -/
def fieldsFrom? (numbered : Bool) (es : List (Node × Node)) :
    Nat → List String → Option (List (Option Node))
  | _, [] => some []
  | place, f :: fs =>
    match es.filter fun e => isKeyOf numbered f place e.1 with
    | [] => (fieldsFrom? numbered es (place + 1) fs).map (none :: ·)
    | [e] => (fieldsFrom? numbered es (place + 1) fs).map (some e.2 :: ·)
    | _ => none

def fieldsOf? (numbered : Bool) (names : List String) (es : List (Node × Node)) :
    Option (List (Option Node)) :=
  if es.all fun e => isFieldKey numbered e.1 then fieldsFrom? numbered es 0 names else none

/-- The fields of a record. -/
def fields? (names : List String) (n : Node) : Option (List (Option Node)) :=
  match n with
  | map es => fieldsOf? true names es
  | list xs =>
    if names.length < xs.length then none
    else some (xs.map some ++ List.replicate (names.length - xs.length) none)
  | _ => none

mutual

/-- Whether a tag stands anywhere in the value. -/
def hasTag : Node → Bool
  | tagged _ _ => true
  | list xs => itemsHaveTag xs
  | map es => entriesHaveTag es
  | _ => false

def itemsHaveTag : List Node → Bool
  | [] => false
  | x :: xs => hasTag x || itemsHaveTag xs

def entriesHaveTag : List (Node × Node) → Bool
  | [] => false
  | (k, v) :: es => hasTag k || hasTag v || entriesHaveTag es

end

/-! ## Making values -/

def ofDict (d : Dict String) : Node := record (d.entries.map fun e => (e.1, text e.2))

def ofTexts (texts : List String) : Node := list (texts.map text)

/-- A field that is left out where there is no value. -/
def optionalField (name : String) (value : Option String) : List (String × Node) :=
  match value with
  | some s => [(name, text s)]
  | none => []

/-- A field that is left out where it is empty. -/
def dictField (name : String) (d : Dict String) : List (String × Node) :=
  if d.isEmpty then [] else [(name, ofDict d)]

end Node

end PipeLoom.Yaml
