import PipeLoom.Command.Line
import Std.Time.DateTime.Timestamp

/-!
# The program

Reads the files around the project, runs the command line on them, and brings about what it answers:
changed files, printed text and the exit code.
-/

namespace PipeLoom.Program

/-- The variable that stands in for the option of that name. -/
def emergencyVariable : String := "CIGEN_EMERGENCY_MODE"

/-- The place of an absolute path. -/
def placeOf (path : String) : Place := (Path.mk path).segments

def pathOf (place : Place) : String := (Path.ofComponents ("/" :: place)).text

/-- The content of a file. One that is no text is shown byte by byte. -/
def contentOf (bytes : ByteArray) : String :=
  (String.fromUTF8? bytes).getD (String.ofList (bytes.toList.map fun b => Char.ofNat b.toNat))

/-- Everything below a directory; links to directories are not followed. -/
partial def entriesBelow (directory : String) : IO (Array (Place × Entry)) := do
  let mut found := #[]
  for e in ← (← IO.FS.realPath directory).readDir do
    let path := e.path.toString
    match (← e.path.symlinkMetadata).type with
    | .dir => found := found.push (placeOf path, .directory) ++ (← entriesBelow path)
    | .file => found := found.push (placeOf path, .file (contentOf (← IO.FS.readBinFile path)))
    | _ => pure ()
  return found

/-- The current directory and those that the command line names. -/
def directories (args : List String) : IO (List String) := do
  let mut found := #[(← IO.currentDir).toString]
  for a in args do
    if a != "" then
      let path ← try IO.FS.realPath a catch _ => continue
      if ← path.isDir then found := found.push path.toString
  return found.toList

/-- The files that a command may read. -/
def fileTree (args : List String) : IO FileTree := do
  let directories ← directories args
  let current := placeOf (directories.headD "/")
  let empty : FileTree := ⟨[], current⟩
  let start := directories.foldl (fun t d => t.install (placeOf d) .directory) empty
  let mut entries := start.entries
  for d in directories do
    entries := entries ++ (← entriesBelow d).toList
  return { start with entries }

def now : IO Timestamp := do
  return .ofNanos (← Std.Time.Timestamp.now).toNanosecondsSinceUnixEpoch.val.toNat

/-- Makes the directories and writes the files that are new or changed. -/
def store (before after : FileTree) : IO Unit := do
  for (place, e) in after.entries do
    if before.get? place != some e then
      match e with
      | .directory => IO.FS.createDirAll (pathOf place)
      | .file content =>
        IO.FS.createDirAll (pathOf place.dropLast)
        IO.FS.writeFile (pathOf place) content

end PipeLoom.Program

open PipeLoom in
def main (args : List String) : IO UInt32 := do
  let tree ← Program.fileTree args
  let answer := CommandLine.run args (← IO.getEnv Program.emergencyVariable) (← Program.now) tree
  Program.store tree answer.tree
  IO.print answer.output
  if let some message := answer.error then
    IO.eprintln ("❌ Error: " ++ message)
  return UInt32.ofNat answer.exitCode
