import PipeLoom.Catalogue.Overlay
import PipeLoom.Pipeline.Compose
import PipeLoom.Project.Artifact
import PipeLoom.Project.Config
import PipeLoom.Provider.Config
import PipeLoom.Selection.Issue

/-!
# Errors of commands

What may stop a command, its message and the exit code that tells the kinds apart.
-/

namespace PipeLoom

namespace StoreError

/-- The message, with the error that caused it once more. -/
def fullMessage : StoreError → String
  | file e => (file e).message ++ ": " ++ e.message
  | e => e.message

/-- Errors of files, the lack of a selection and an unreadable one have codes of their own. -/
def exitCode : StoreError → Nat
  | selectionNotFound _ => 2
  | alreadyExists _ | file _ => 5
  | unreadable => 1

end StoreError

namespace OverlayError

/-- The message, with the error that caused it once more. -/
def fullMessage : OverlayError → String
  | file e => (file e).message ++ ": " ++ e.message
  | e => e.message

def exitCode : OverlayError → Nat
  | unsound _ | unreadable _ => 4
  | notFound _ | file _ => 5

end OverlayError

/-- What a command was doing with the project's files. -/
inductive Activity where
  | loading | comparing | writing | saving
  deriving DecidableEq, Repr

/-- What goes before the message of an error. -/
def Activity.context : Activity → String
  | loading => ""
  | comparing => "Generated files were edited; use --force to overwrite them: "
  | writing => "Failed to write generated files: "
  | saving => "Failed to save selection: "

inductive CommandError where
  | unknownEvent (name : String)
  | unknownAxis (name : String)
  | alreadyGenerated (root : Path)
  | incompatible (issues : List Issue)
  | provider (error : ProviderError)
  /-- Does not arise, since every command verifies its catalogue. -/
  | uncomposable (error : ComposeError)
  | config (error : ConfigError)
  | overlay (directory : Path) (error : OverlayError)
  /-- Does not arise, since the builtin catalogue is sound. -/
  | unsound (faults : List Fault)
  | store (activity : Activity) (error : StoreError)
  deriving DecidableEq, Repr

namespace CommandError

def message : CommandError → String
  | unknownEvent name => "Unknown event '" ++ name ++ "' (tag events also need --tag)"
  | unknownAxis name => "Unknown axis '" ++ name ++ "'"
  | alreadyGenerated root =>
    "Project at " ++ Text.quoted root.text ++
      " was already generated. Use \x60cigen add\x60 or --force to regenerate."
  | incompatible issues => Issue.report issues
  | provider e => e.message
  | uncomposable e => e.message
  | config e => e.message
  | overlay directory e =>
    "Failed to load catalogue overlays from " ++ Text.quoted directory.text ++ ": " ++ e.fullMessage
  | unsound faults => (OverlayError.unsound faults).message
  | store activity e => activity.context ++ e.fullMessage

def exitCode : CommandError → Nat
  | unknownEvent _ | unknownAxis _ => 2
  | alreadyGenerated _ => 1
  | incompatible _ => 3
  | provider (.invalidAppName _) => 2
  | provider (.file _) => 5
  | provider _ => 1
  | uncomposable _ => 101
  | config (.invalid _) => 2
  | config (.unreadable _ _) => 5
  | overlay _ e => e.exitCode
  | unsound _ => 4
  | store _ e => e.exitCode

end CommandError

end PipeLoom
