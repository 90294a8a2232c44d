import PipeLoom.Classification
import PipeLoom.Command.Generation
import PipeLoom.Text.Json

/-!
# Commands

What each command does with a project: the text it prints, whether it succeeds, and the files
afterwards. A command that fails may have printed something before.
-/

namespace PipeLoom

/-- What becomes of running a command. -/
structure Outcome where
  output : String
  result : Except CommandError Unit
  tree : FileTree

namespace Outcome

def exitCode (o : Outcome) : Nat :=
  match o.result with
  | .ok () => 0
  | .error e => e.exitCode

def ok (output : String) (tree : FileTree) : Outcome := ⟨output, .ok (), tree⟩

def fail (output : String) (e : CommandError) (tree : FileTree) : Outcome :=
  ⟨output, .error e, tree⟩

end Outcome

/-- Lines, each with its end. -/
def textLines (ls : List String) : String := String.join (ls.map (· ++ "\n"))

def warningLines (warnings : List String) : List String := warnings.map ("⚠️  " ++ ·)

/-- The generated files as they would be written. -/
def dryRunText (as : List Artifact) : String :=
  String.join (as.map fun a => "--- " ++ a.path.text ++ "\n" ++ a.content)

/-- What the command line says in place of the configuration. -/
structure ConfigArgs where
  emergencyMode : Option Bool
  catalogue : Option Path
  deriving DecidableEq, Repr

def ConfigArgs.load (a : ConfigArgs) (t : FileTree) (root : Path) : Except CommandError Config :=
  ((Config.load t root).mapError .config).map fun c => c.override a.emergencyMode a.catalogue

/-- One value for each axis and any number of hooks. -/
structure SelectionArgs where
  language : Option String
  packageManager : Option String
  framework : Option String
  provider : Option String
  service : Option String
  hooks : List String
  deriving DecidableEq, Repr

namespace SelectionArgs

def isEmpty (a : SelectionArgs) : Bool :=
  a.language.isNone && a.packageManager.isNone && a.framework.isNone && a.provider.isNone &&
    a.service.isNone && a.hooks.isEmpty

def toRaw (a : SelectionArgs) : RawSelection :=
  let raw := ((((RawSelection.setOptional ∅ "language" a.language).setOptional
    "package-manager" a.packageManager).setOptional "framework" a.framework).setOptional
    "provider" a.provider).setOptional "service" a.service
  if a.hooks.isEmpty then raw else raw.addHooks a.hooks

end SelectionArgs

/-! ## Init -/

structure InitArgs where
  selection : SelectionArgs
  appName : String
  output : Option Path
  force : Bool
  dryRun : Bool
  config : ConfigArgs
  deriving DecidableEq, Repr

namespace InitArgs

/-- What is generated, unless the project was generated before. -/
def prepare (a : InitArgs) (t : FileTree) (root : Path) : Except CommandError Generation := do
  let config ← a.config.load t root
  if t.isThere (SavedSelection.path root) && !a.force && !a.dryRun then
    .error (.alreadyGenerated root)
  let c ← loadCatalogue t root config
  Generation.make c a.selection.toRaw a.appName config

def report (a : InitArgs) (root : Path) (s : Selection) (written : List Path) : List String :=
  ["✅ Pipeline generated for " ++ a.appName, "", "Created:"] ++
    ((written.filterMap (·.relativeTo? root)).map fun p => "  📄 " ++ p.text) ++
    ["  📁 " ++ SavedSelection.directory ++ "/ - saved selection", "", "Next steps:"] ++
    (if s.hasHook "hotfix" then []
      else ["  cigen add hotfix     # separate workflow for v<semver>-hotfix.<n> releases"]) ++
    (if s.hasHook "rollback" then []
      else ["  cigen add rollback   # manual redeploy of a previous tag"])

/-- A run that writes files in the given way. -/
def runBy (write : FileTree.Writing) (a : InitArgs) (now : Timestamp) (t : FileTree) : Outcome :=
  let root := a.output.getD t.currentPath
  match a.prepare t root with
  | .error e => .fail "" e t
  | .ok g =>
    let warnings := textLines (warningLines g.warnings)
    if a.dryRun then .ok (warnings ++ dryRunText g.artifacts) t
    else
      match Artifact.writeAllBy write t root g.artifacts a.force with
      | (.error e, t) => .fail warnings (.store .writing e) t
      | (.ok written, t) =>
        match (SavedSelection.new a.appName g.selection.toRaw now).saveBy write t root with
        | (.error e, t) => .fail warnings (.store .saving e) t
        | (.ok (), t) => .ok (warnings ++ textLines (a.report root g.selection written)) t

def run (a : InitArgs) (now : Timestamp) (t : FileTree) : Outcome :=
  a.runBy FileTree.writeWithParents now t

end InitArgs

/-! ## Add -/

inductive AddTarget where
  | hotfix | rollback
  deriving DecidableEq, Repr

/-- The hook that brings the workflow. -/
def AddTarget.hook : AddTarget → String
  | hotfix => "hotfix"
  | rollback => "rollback"

structure AddArgs where
  target : AddTarget
  output : Option Path
  force : Bool
  dryRun : Bool
  config : ConfigArgs
  deriving DecidableEq, Repr

namespace AddArgs

/-- The saved selection, the new generation, and the files of the generation before it; if that
cannot be made there are none. -/
def prepare (a : AddArgs) (t : FileTree) (root : Path) :
    Except CommandError (SavedSelection × Generation × List Artifact) := do
  let saved ← (SavedSelection.load t root).mapError (.store .loading)
  let config ← a.config.load t root
  let c ← loadCatalogue t root config
  let g ← Generation.make c (saved.selection.addHooks [a.target.hook]) saved.appName config
  let previous :=
    match Generation.make c saved.selection saved.appName config with
    | .ok g => g.artifacts
    | .error _ => []
  return (saved, g, previous)

def report (a : AddArgs) (saved : SavedSelection) (changed : List Artifact) : List String :=
  ["✅ Added " ++ a.target.hook ++ " to " ++ saved.appName, "", "Updated:"] ++
    changed.map fun f => "  📄 " ++ f.path.text

def run (a : AddArgs) (now : Timestamp) (t : FileTree) : Outcome :=
  let root := a.output.getD t.currentPath
  match a.prepare t root with
  | .error e => .fail "" e t
  | .ok (saved, g, previous) =>
    let warnings := textLines (warningLines g.warnings)
    if a.dryRun then .ok (warnings ++ dryRunText g.artifacts) t
    else
      match Artifact.changed t root previous a.force g.artifacts with
      | .error e => .fail warnings (.store .comparing e) t
      | .ok [] =>
        let done := "✅ " ++ a.target.hook ++ " is already enabled; nothing to do"
        .ok (warnings ++ textLines [done]) t
      | .ok changed =>
        match Artifact.writeAll t root changed true with
        | (.error e, t) => .fail warnings (.store .writing e) t
        | (.ok _, t) =>
          match SavedSelection.save t root (saved.update g.selection.toRaw now) with
          | (.error e, t) => .fail warnings (.store .saving e) t
          | (.ok (), t) => .ok (warnings ++ textLines (a.report saved changed)) t

end AddArgs

/-! ## Validate -/

structure ValidateArgs where
  /-- The saved selection is meant where nothing is given. -/
  selection : SelectionArgs
  path : Option Path
  config : ConfigArgs
  deriving DecidableEq, Repr

namespace ValidateArgs

def prepare (a : ValidateArgs) (t : FileTree) (root : Path) :
    Except CommandError (RawSelection × Catalogue) := do
  let raw ←
    if a.selection.isEmpty then
      ((SavedSelection.load t root).mapError (.store .loading)).map (·.selection)
    else .ok a.selection.toRaw
  let config ← a.config.load t root
  return (raw, ← loadCatalogue t root config)

def issueLines (issues : List Issue) : List String :=
  ["📋 Validating selection...", "   ❌ " ++ toString issues.length ++ " issue(s):"] ++
    issues.map fun i => "      - " ++ i.text

def selectionLines (s : Selection) : List String :=
  ["📋 Validating selection...", "   ✅ Selection is compatible"] ++
    s.fragments.map fun f => "      " ++ f.text

def stageLines (p : Pipeline) : List String :=
  ["", "🔧 Stages:"] ++
    p.stages.map fun s => "   " ++ s.name.name ++ " (" ++ toString s.steps.length ++ " steps)"

def run (a : ValidateArgs) (t : FileTree) : Outcome :=
  match a.prepare t (a.path.getD t.currentPath) with
  | .error e => .fail "" e t
  | .ok (raw, c) =>
    match c.resolve raw with
    | .error issues => .fail (textLines (issueLines issues)) (.incompatible issues) t
    | .ok s =>
      match c.compose s with
      | .error e => .fail (textLines (selectionLines s)) (.uncomposable e) t
      | .ok p => .ok (textLines (selectionLines s ++ stageLines p ++ warningLines p.warnings)) t

end ValidateArgs

/-! ## Classify -/

inductive OutputFormat where
  | text | json
  deriving DecidableEq, Repr

structure ClassifyArgs where
  event : String
  tag : Option String
  format : OutputFormat
  path : Option Path
  emergencyMode : Option Bool
  deriving DecidableEq, Repr

namespace ClassifyArgs

def boolText (b : Bool) : String := if b then "true" else "false"

def plainLines (c : Classification) : List String :=
  ["intent:      " ++ c.intent.name, "environment: " ++ c.intent.environment?.getD "-",
    "skip_gates:  " ++ boolText c.intent.skipsGates] ++
    c.reason.toList.map ("reason:      " ++ ·)

/-- The fields in the order of their names. -/
def jsonFields (c : Classification) : List (String × String) :=
  [("environment", (c.intent.environment?.map Text.json).getD "null"),
    ("intent", Text.json c.intent.name)] ++
    (c.reason.toList.map fun r => ("reason", Text.json r)) ++
    [("skip_gates", boolText c.intent.skipsGates)]

def jsonLines (c : Classification) : List String :=
  let fields := (jsonFields c).map fun f => "  " ++ Text.json f.1 ++ ": " ++ f.2
  ["\x7b\n" ++ String.intercalate ",\n" fields ++ "\n\x7d"]

def run (a : ClassifyArgs) (t : FileTree) : Outcome :=
  let root := a.path.getD t.currentPath
  match ConfigArgs.load ⟨a.emergencyMode, none⟩ t root, Event.ofParts? a.event a.tag with
  | .error e, _ => .fail "" e t
  | .ok _, none => .fail "" (.unknownEvent a.event) t
  | .ok config, some event =>
    let c := event.classify config.emergencyMode
    .ok (textLines (match a.format with
      | .text => plainLines c
      | .json => jsonLines c)) t

end ClassifyArgs

/-! ## List -/

structure ListArgs where
  axis : Option String
  path : Option Path
  catalogue : Option Path
  deriving DecidableEq, Repr

namespace ListArgs

/-- A text with spaces after it up to a width of fourteen characters. -/
def column (s : String) : String := s ++ String.ofList (List.replicate (14 - s.length) ' ')

def fragmentLines (f : Fragment) : List String :=
  ("   " ++ column f.value ++ " " ++ f.name) ::
    (f.requires.map fun r => "   " ++ column "" ++ "   requires " ++ r.text) ++
    (f.excludes.map fun e => "   " ++ column "" ++ "   excludes " ++ e.fragment.text)

def axisLines (c : Catalogue) (a : Axis) : List String :=
  ("📦 " ++ a.name ++ (if a.isRequired then "" else " (optional)")) ::
    (c.values a).flatMap fragmentLines ++ [""]

def axes? (a : ListArgs) : Except CommandError (List Axis) :=
  match a.axis with
  | none => .ok Axis.all
  | some name =>
    match Axis.ofText? name with
    | some axis => .ok [axis]
    | none => .error (.unknownAxis name)

def prepare (a : ListArgs) (t : FileTree) : Except CommandError (List Axis × Catalogue) := do
  let root := a.path.getD t.currentPath
  let axes ← a.axes?
  let config ← ConfigArgs.load ⟨none, a.catalogue⟩ t root
  return (axes, ← loadCatalogue t root config)

def run (a : ListArgs) (t : FileTree) : Outcome :=
  match a.prepare t with
  | .error e => .fail "" e t
  | .ok (axes, c) => .ok (textLines (axes.flatMap (axisLines c))) t

end ListArgs

/-! ## Any command -/

inductive Command where
  | init (args : InitArgs)
  | add (args : AddArgs)
  | validate (args : ValidateArgs)
  | classify (args : ClassifyArgs)
  | list (args : ListArgs)
  deriving DecidableEq, Repr

def Command.run (c : Command) (now : Timestamp) (t : FileTree) : Outcome :=
  match c with
  | init a => a.run now t
  | add a => a.run now t
  | validate a => a.run t
  | classify a => a.run t
  | list a => a.run t

end PipeLoom
