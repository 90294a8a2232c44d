import PipeLoom.File.Error
import PipeLoom.File.Path

/-!
# File trees

A file tree holds files and directories by their places, which are lists of names from the root.
There are no links. A path is followed name by name from the directory where relative paths start;
operations change the tree only where they say so, also when they fail. They fail only where a path
does not lead where it should; how a device fails on its own is left to `Writing`.
-/

namespace PipeLoom

/-- The names from the root. -/
abbrev Place := List String

inductive Entry where
  | file (content : String)
  | directory
  deriving DecidableEq, Repr

structure FileTree where
  entries : List (Place × Entry)
  /-- The directory where relative paths start. -/
  current : Place

namespace FileTree

/-! ## Places -/

/-- What stands at a place; the root is a directory. -/
def get? (t : FileTree) (p : Place) : Option Entry :=
  if p = [] then some .directory else t.entries.lookup p

def put (t : FileTree) (p : Place) (e : Entry) : FileTree :=
  { t with entries := (p, e) :: t.entries.filter (·.1 != p) }

/-- Takes away what stands at a place and below it. -/
def remove (t : FileTree) (p : Place) : FileTree :=
  { t with entries := t.entries.filter fun e => !p.isPrefixOf e.1 }

/-- Puts an entry at a place, with directories above it. -/
def install (t : FileTree) (p : Place) (e : Entry) : FileTree :=
  let above := (List.range p.length).drop 1 |>.map fun n => p.take n
  let t := above.foldl (fun t d => if (t.get? d).isNone then t.put d .directory else t) t
  t.put p e

/-- Every file, in no order. -/
def files (t : FileTree) : List (Place × String) :=
  t.entries.filterMap fun e =>
    match e.2 with
    | .file content => some (e.1, content)
    | .directory => none

/-- The path of the directory where relative paths start. -/
def currentPath (t : FileTree) : Path := .ofComponents ("/" :: t.current)

/-! ## Following paths -/

/-- Where a path leads: to an entry, or to a place in a directory where nothing stands. -/
inductive Target where
  | entry (place : Place) (entry : Entry)
  | vacant (place : Place)

/-- File systems limit the length of a name. -/
def maxName : Nat := 255

/-- Follows names from a directory. -/
def follow (t : FileTree) : Place → List String → Except FileError Target
  | here, [] => .ok (.entry here .directory)
  | here, "." :: r => follow t here r
  | here, ".." :: r => follow t here.dropLast r
  | here, name :: r =>
    if maxName < name.utf8ByteSize then .error .nameTooLong
    else
      match t.get? (here ++ [name]), r with
      | some .directory, r => follow t (here ++ [name]) r
      | some (.file content), [] => .ok (.entry (here ++ [name]) (.file content))
      | some (.file _), _ :: _ => .error .notADirectory
      | none, [] => .ok (.vacant (here ++ [name]))
      | none, _ :: _ => .error .notFound

def target (t : FileTree) (p : Path) : Except FileError Target :=
  if p.text.toList.contains '\x00' then .error .badName
  else if p.text.isEmpty then .error .notFound
  else
    match follow t (if p.isAbsolute then [] else t.current) p.segments with
    | .ok (.entry place (.file content)) =>
      if p.endsInSlash then .error .notADirectory else .ok (.entry place (.file content))
    | r => r

/-! ## Looking -/

def entryAt? (t : FileTree) (p : Path) : Option Entry :=
  match t.target p with
  | .ok (.entry _ e) => some e
  | _ => none

def isThere (t : FileTree) (p : Path) : Bool := (t.entryAt? p).isSome

def isDirectory (t : FileTree) (p : Path) : Bool := t.entryAt? p == some .directory

def read (t : FileTree) (p : Path) : Except FileError String :=
  match t.target p with
  | .ok (.entry _ (.file content)) => .ok content
  | .ok (.entry _ .directory) => .error .isADirectory
  | .ok (.vacant _) => .error .notFound
  | .error e => .error e

/-- The files below a directory with their names from there on. -/
def filesBelow (t : FileTree) (p : Path) : List (List String × String) :=
  match t.target p with
  | .ok (.entry place .directory) =>
    t.files.filterMap fun f =>
      if place.isPrefixOf f.1 then some (f.1.drop place.length, f.2) else none
  | _ => []

/-! ## Changing -/

/-- Makes a directory in an existing one. -/
def makeDirectory (t : FileTree) (p : Path) : Except FileError FileTree :=
  match t.target p with
  | .ok (.entry _ _) => .error .alreadyExists
  | .ok (.vacant place) => .ok (t.put place .directory)
  | .error e => .error e

/-- Writes a file into an existing directory, over a file that is there. The file is written as a
whole or left alone: a device that is full or broken, which leaves it cut off, and one that may not
be written are not among the failures. -/
def write (t : FileTree) (p : Path) (content : String) : Except FileError FileTree :=
  match t.target p with
  | .ok (.entry place (.file _)) => .ok (t.put place (.file content))
  | .ok (.entry _ .directory) => .error .isADirectory
  | .ok (.vacant place) =>
    if p.endsInSlash then .error .isADirectory else .ok (t.put place (.file content))
  | .error e => .error e

/-- Makes a directory and those above it that are not there. `n` bounds the number of levels. -/
def makeDirectoriesFrom : Nat → FileTree → Path → Except FileError Unit × FileTree
  | 0, t, _ => (.error .notFound, t)
  | n + 1, t, p =>
    if p.components.isEmpty then (.ok (), t)
    else
      match t.makeDirectory p with
      | .ok t => (.ok (), t)
      | .error .notFound =>
        match p.parent? with
        | none => (.error .notFound, t)
        | some parent =>
          match makeDirectoriesFrom n t parent with
          | (.error e, t) => (.error e, t)
          | (.ok (), t) =>
            match t.makeDirectory p with
            | .ok t => (.ok (), t)
            | .error e => (if t.isDirectory p then .ok () else .error e, t)
      | .error e => (if t.isDirectory p then .ok () else .error e, t)

def makeDirectories (t : FileTree) (p : Path) : Except FileError Unit × FileTree :=
  makeDirectoriesFrom (p.components.length + 1) t p

/-- A way to write a file after making the directories above it: what is reported, and the tree
afterwards. -/
abbrev Writing := FileTree → Path → String → Except FileError Unit × FileTree

/-- Writes a file after making the directories above it, where the device never fails. -/
def writeWithParents : Writing := fun t p content =>
  let (made, t) :=
    match p.parent? with
    | some parent => t.makeDirectories parent
    | none => (.ok (), t)
  match made with
  | .error e => (.error e, t)
  | .ok () =>
    match t.write p content with
    | .ok t => (.ok (), t)
    | .error e => (.error e, t)

end FileTree

end PipeLoom
