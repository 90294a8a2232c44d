import PipeLoom.File.Tree
import PipeLoom.Selection.Yaml
import PipeLoom.Text.Quoted
import PipeLoom.Timestamp

/-!
# Saved selections

A project keeps the selection it was generated from, so that it can be generated again.
-/

namespace PipeLoom

open Yaml (Node Document)

inductive StoreError where
  | selectionNotFound (path : Path)
  | alreadyExists (path : Path)
  /-- The text of a saved selection is none. -/
  | unreadable
  | file (error : FileError)
  deriving DecidableEq, Repr

namespace StoreError

/-- What is wrong; the reason why a text cannot be read is not told. -/
def message : StoreError → String
  | selectionNotFound path =>
    "No saved selection at " ++ Text.quoted path.text ++ "; run \x60cigen init\x60 first"
  | alreadyExists path =>
    "Refusing to overwrite existing file " ++ Text.quoted path.text ++ " (use --force)"
  | unreadable => "Serialization error: "
  | file error => "IO error: " ++ error.message

end StoreError

structure SavedSelection where
  appName : String
  selection : RawSelection
  createdAt : Timestamp
  updatedAt : Timestamp
  deriving DecidableEq

namespace SavedSelection

def new (appName : String) (selection : RawSelection) (now : Timestamp) : SavedSelection :=
  ⟨appName, selection, now, now⟩

def update (s : SavedSelection) (selection : RawSelection) (now : Timestamp) : SavedSelection :=
  { s with selection, updatedAt := now }

/-! ## As a document -/

def toNode (s : SavedSelection) : Node :=
  .record [("app_name", .text s.appName), ("selection", s.selection.toNode),
    ("created_at", .text s.createdAt.print), ("updated_at", .text s.updatedAt.print)]

def print (s : SavedSelection) : String := s.toNode.print

def readTime (d : Document) (t : Yaml.Tree) : Document.Reading Timestamp := do
  match Timestamp.ofText? (← d.text t) with
  | some time => return time
  | none => Document.fail

def read (d : Document) : Document.Reading SavedSelection := do
  match ← d.fields ["app_name", "selection", "created_at", "updated_at"] with
  | [appName, selection, createdAt, updatedAt] =>
    return {
      appName := ← Document.required d.text appName
      selection := ← Document.required (RawSelection.read d (Document.maxDepth - 2)) selection
      createdAt := ← Document.required (readTime d) createdAt
      updatedAt := ← Document.required (readTime d) updatedAt
    }
  | _ => Document.fail

def ofText? (s : String) : Option SavedSelection := do
  let d ← Document.ofText? s
  (read d).run' 0

/-! ## In a project -/

/-- Name of the directory that holds the saved selection. -/
def directory : String := ".cigen"

/-- Where a project keeps its selection. -/
def path (root : Path) : Path := (root.child directory).child "selection.yaml"

def load (t : FileTree) (root : Path) : Except StoreError SavedSelection :=
  if !t.isThere (path root) then .error (.selectionNotFound (path root))
  else
    match t.read (path root) with
    | .error e => .error (.file e)
    | .ok content =>
      match ofText? content with
      | some s => .ok s
      | none => .error .unreadable

def saveBy (write : FileTree.Writing) (s : SavedSelection) (t : FileTree) (root : Path) :
    Except StoreError Unit × FileTree :=
  match write t (path root) s.print with
  | (.ok (), t) => (.ok (), t)
  | (.error e, t) => (.error (.file e), t)

def save (t : FileTree) (root : Path) (s : SavedSelection) : Except StoreError Unit × FileTree :=
  s.saveBy FileTree.writeWithParents t root

end SavedSelection

end PipeLoom
