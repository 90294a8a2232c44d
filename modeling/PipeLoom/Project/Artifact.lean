import PipeLoom.Project.Saved

/-!
# Generated files

Writing the files of a generation, and finding those that a new generation has to write. A file that
its owner has edited is not overwritten unless that is forced.
-/

namespace PipeLoom

/-- A generated file, by its path in the project. -/
structure Artifact where
  path : Path
  content : String
  deriving DecidableEq, Repr

namespace Artifact

def target (root : Path) (a : Artifact) : Path := root.join a.path

/-- Writes the files one by one and stops at the first that cannot be written. -/
def writeEachBy (write : FileTree.Writing) (t : FileTree) (root : Path) :
    List Artifact → Except StoreError Unit × FileTree
  | [] => (.ok (), t)
  | a :: as =>
    match write t (a.target root) a.content with
    | (.ok (), t) => writeEachBy write t root as
    | (.error e, t) => (.error (.file e), t)

/-- Writes the files and gives their paths. Unless forced, nothing is written if anything stands at
one of the paths. -/
def writeAllBy (write : FileTree.Writing) (t : FileTree) (root : Path) (as : List Artifact)
    (force : Bool) : Except StoreError (List Path) × FileTree :=
  let targets := as.map (target root)
  match if force then none else targets.find? t.isThere with
  | some existing => (.error (.alreadyExists existing), t)
  | none =>
    match writeEachBy write t root as with
    | (.ok (), t) => (.ok targets, t)
    | (.error e, t) => (.error e, t)

def writeAll (t : FileTree) (root : Path) (as : List Artifact) (force : Bool) :
    Except StoreError (List Path) × FileTree :=
  writeAllBy FileTree.writeWithParents t root as force

/-- What the file held in the previous generation. -/
def previousContent? (previous : List Artifact) (a : Artifact) : Option String :=
  (previous.find? fun p => p.path.same a.path).map (·.content)

/-- Whether a file has to be written. -/
def needsWriting (t : FileTree) (root : Path) (previous : List Artifact) (force : Bool)
    (a : Artifact) : Except StoreError Bool :=
  let before := a.previousContent? previous
  if before = some a.content then .ok false
  else
    match t.read (a.target root) with
    | .error .notFound => .ok true
    | .error e => .error (.file e)
    | .ok existing =>
      if existing = a.content then .ok false
      else if before = some existing || force then .ok true
      else .error (.alreadyExists (a.target root))

/-- The files of a new generation that have to be written, given the previous generation. -/
def changed (t : FileTree) (root : Path) (previous : List Artifact) (force : Bool) :
    List Artifact → Except StoreError (List Artifact)
  | [] => .ok []
  | a :: as => do
    let write ← a.needsWriting t root previous force
    let rest ← changed t root previous force as
    return if write then a :: rest else rest

end Artifact

end PipeLoom
