import PipeLoom.Catalogue.Integrity
import PipeLoom.File.Tree
import PipeLoom.Fragment.Yaml
import PipeLoom.Text.Quoted

/-!
# Overlays

An overlay is a directory of fragment files. Its fragments add to a catalogue or replace what is
there; of two files the later one in path order counts.
-/

namespace PipeLoom

inductive OverlayError where
  | notFound (directory : Path)
  | unreadable (path : Path)
  | unsound (faults : List Fault)
  | file (error : FileError)
  deriving DecidableEq, Repr

namespace OverlayError

/-- What is wrong; the reason why a file cannot be read is not told. -/
def message : OverlayError → String
  | notFound directory => "Catalogue directory not found: " ++ Text.quoted directory.text
  | unreadable path => "Invalid fragment file " ++ Text.quoted path.text ++ ": "
  | unsound faults =>
    "Catalogue integrity check failed: " ++ String.intercalate "; " (faults.map (·.text))
  | file error => "IO error: " ++ error.message

end OverlayError

namespace Overlay

/-- Order of paths name by name. -/
def placeLe : List String → List String → Bool
  | [], _ => true
  | _ :: _, [] => false
  | a :: as, b :: bs => a < b || (a == b && placeLe as bs)

def isFragmentFile (p : Path) : Bool := ["yaml", "yml"].any fun e => p.extension? == some e

/-- The fragment files below a directory in path order, with their texts. -/
def files (t : FileTree) (dir : Path) : List (Path × String) :=
  let found := (t.filesBelow dir).filter fun f => isFragmentFile ⟨f.1.getLast?.getD ""⟩
  (found.mergeSort fun f g => placeLe f.1 g.1).map fun f => (f.1.foldl Path.child dir, f.2)

/-- The fragments of one file's text. -/
def ofText (path : Path) (content : String) : Except OverlayError (List Fragment) :=
  match Fragment.readAll? content with
  | some fs => .ok fs
  | none => .error (.unreadable path)

/-- A catalogue of the fragments in a directory. -/
def load (t : FileTree) (dir : Path) : Except OverlayError Catalogue :=
  if !t.isDirectory dir then .error (.notFound dir)
  else do
    let fs ← (files t dir).mapM fun f => ofText f.1 f.2
    return Catalogue.empty.registerAll fs.flatten

/-- A catalogue with an overlay on it, if that is sound. -/
def loadOnto (t : FileTree) (dir : Path) (base : Catalogue) : Except OverlayError Catalogue := do
  let c := base.merge (← load t dir)
  match c.verify with
  | .ok () => .ok c
  | .error faults => .error (.unsound faults)

end Overlay

end PipeLoom
