import PipeLoom.File.Tree
import PipeLoom.Text.Quoted
import PipeLoom.Toml.Document

/-!
# Configuration of a project

Where generated files go, where overlays are, and whether hotfix releases skip gates.
-/

namespace PipeLoom

structure Config where
  /-- Where workflows are written. -/
  workflowDir : Path
  /-- Where the provider document is written. -/
  providerDir : Path
  /-- The directory of overlays. -/
  catalogueDir : Option Path
  emergencyMode : Bool
  deriving DecidableEq, Repr

inductive ConfigError where
  | unreadable (path : Path) (error : FileError)
  | invalid (path : Path)
  deriving DecidableEq, Repr

/-- What is wrong; the reason why a configuration is invalid is not told. -/
def ConfigError.message : ConfigError → String
  | unreadable path error => "Failed to read " ++ Text.quoted path.text ++ ": " ++ error.message
  | invalid path => "Invalid configuration in " ++ Text.quoted path.text ++ ": "

namespace Config

open Toml (Value)

def default : Config := ⟨⟨".github/workflows"⟩, ⟨"deploy"⟩, none, false⟩

instance : Inhabited Config := ⟨default⟩

/-! ## Reading -/

/-- Emergency mode from the trigger table: its field, or the only field of a list. A date counts as
a table of other fields. -/
def triggerOf? : Value → Option Bool
  | .table _ es =>
    match es.lookup "emergency_mode" with
    | none => some false
    | some (.bool b) => some b
    | some _ => none
  | .list [] => some false
  | .list (.bool b :: _) => some b
  | .moment => some false
  | _ => none

/-- Sets what one entry of the configuration says; no other keys are known. -/
def withEntry? (c : Config) (key : String) (v : Value) : Option Config :=
  match key, v with
  | "workflow_dir", .text s => some { c with workflowDir := ⟨s⟩ }
  | "provider_dir", .text s => some { c with providerDir := ⟨s⟩ }
  | "catalogue_dir", .text s => some { c with catalogueDir := some ⟨s⟩ }
  | "trigger", v => (triggerOf? v).map fun b => { c with emergencyMode := b }
  | _, _ => none

def ofText? (s : String) : Option Config := do
  match ← Toml.ofText? s with
  | .table _ es => es.foldlM (fun c e => c.withEntry? e.1 e.2) default
  | _ => none

def path (root : Path) : Path := root.child "cigen.toml"

/-- The configuration of a project, the default one if it has none of its own. -/
def load (t : FileTree) (root : Path) : Except ConfigError Config :=
  if !t.isThere (path root) then .ok default
  else
    match t.read (path root) with
    | .error e => .error (.unreadable (path root) e)
    | .ok content =>
      match ofText? content with
      | some c => .ok c
      | none => .error (.invalid (path root))

/-- What is given on the command line counts. -/
def override (c : Config) (emergencyMode : Option Bool) (catalogue : Option Path) : Config :=
  { c with
    emergencyMode := emergencyMode.getD c.emergencyMode
    catalogueDir := catalogue.or c.catalogueDir }

end Config

end PipeLoom
