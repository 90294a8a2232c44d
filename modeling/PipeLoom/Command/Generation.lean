import PipeLoom.Catalogue.Builtin
import PipeLoom.Command.Error
import PipeLoom.Selection.Resolve
import PipeLoom.Workflow.Emit

/-!
# Generation

From a raw selection to the files of a project: its workflows, then its provider document.
-/

namespace PipeLoom

structure Generation where
  selection : Selection
  artifacts : List Artifact
  warnings : List String

namespace Generation

/-- The files for a pipeline and its provider document. -/
def artifactsOf (config : Config) (appName : String) (p : Pipeline) (provider : ProviderConfig) :
    List Artifact :=
  let options := { EmitOptions.new appName with emergencyMode := config.emergencyMode }
  (options.emit p).map (fun f => ⟨config.workflowDir.child f.fileName, f.content⟩) ++
    [⟨provider.pathIn config.providerDir, provider.print⟩]

/-- Resolves, composes and renders a selection. -/
def make (c : Catalogue) (raw : RawSelection) (appName : String) (config : Config) :
    Except CommandError Generation := do
  let selection ← (c.resolve raw).mapError .incompatible
  let provider ← (ProviderConfig.ofSelection c selection appName).mapError .provider
  let pipeline ← (c.compose selection).mapError .uncomposable
  return ⟨selection, artifactsOf config appName pipeline provider, pipeline.warnings⟩

end Generation

/-- The builtin catalogue with the configured overlay, verified. -/
def loadCatalogue (t : FileTree) (root : Path) (config : Config) : Except CommandError Catalogue :=
  match config.catalogueDir with
  | some dir => (Overlay.loadOnto t (root.join dir) .builtin).mapError (.overlay dir)
  | none => (Catalogue.builtin.verify.mapError .unsound).map fun _ => .builtin

end PipeLoom
