import PipeLoom.Dict
import PipeLoom.Yaml.Node.Read

/-!
# Documents of plain fields

A document that is a record whose fields are texts reads each scalar as its text, whatever its type.
Fields that are not asked for are passed over without being read.
-/

namespace PipeLoom.Yaml

namespace Document

/-- A scalar of any type. -/
def text (d : Document) (t : Tree) : Reading String := do
  match ← d.follow t with
  | .scalar _ s _ => return s
  | _ => fail

/-- A scalar of any type but null, which stands for nothing. -/
def textOrNull (d : Document) (t : Tree) : Reading (Option String) := do
  match ← d.follow t with
  | .scalar tag s isPlain =>
    if !isPlain then return some s
    else
      match tag with
      | none => return if Scalar.isNull s then none else some s
      | some tag =>
        if tag != standardTag "null" then return some s
        else if Scalar.isNull s && !s.isEmpty then return none
        else fail
  | _ => fail

/-- The entries of a mapping with scalar keys. Where nothing is written there are none. -/
def entries (d : Document) (t : Tree) : Reading (List (String × Tree)) := do
  match ← d.follow t with
  | .map _ es => es.mapM fun e => do return (← d.text e.1, e.2)
  | .scalar _ s isPlain => if s.isEmpty && isPlain then return [] else fail
  | _ => fail

/-- A dictionary; of two entries with one key the later counts. -/
def dict {α : Type} (d : Document) (read : Tree → Reading α) (t : Tree) : Reading (Dict α) := do
  let es ← d.entries t
  return .ofList (← es.mapM fun e => do return (e.1, ← read e.2))

/-- The values of the named fields, in the order of the names. None is given twice. -/
def fields (d : Document) (names : List String) : Reading (List (Option Tree)) := do
  let es ← match d.root with
    | none => pure []
    | some t => d.entries t
  names.mapM fun name =>
    match es.filter (·.1 == name) with
    | [] => pure none
    | [e] => pure (some e.2)
    | _ => fail

/-- A field that must be given. -/
def required {α : Type} (read : Tree → Reading α) : Option Tree → Reading α
  | some t => read t
  | none => fail

/-- A value inside the outermost mapping. -/
def inner (d : Document) (r : Strictness) (t : Tree) : Reading Node := d.value r (maxDepth - 1) t

end Document

end PipeLoom.Yaml
