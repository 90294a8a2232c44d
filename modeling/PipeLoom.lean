import PipeLoom.Axis
import PipeLoom.Catalogue.Basic
import PipeLoom.Catalogue.Builtin
import PipeLoom.Catalogue.Integrity
import PipeLoom.Catalogue.Overlay
import PipeLoom.Classification
import PipeLoom.Classification.Script
import PipeLoom.Command.Basic
import PipeLoom.Command.Error
import PipeLoom.Command.Generation
import PipeLoom.Command.Grammar
import PipeLoom.Command.Line
import PipeLoom.Decimal
import PipeLoom.Dict
import PipeLoom.Expression
import PipeLoom.File.Error
import PipeLoom.File.Path
import PipeLoom.File.Tree
import PipeLoom.Fragment
import PipeLoom.Fragment.Yaml
import PipeLoom.Guard
import PipeLoom.Intent
import PipeLoom.Main
import PipeLoom.Pipeline.Basic
import PipeLoom.Pipeline.Compose
import PipeLoom.Pipeline.EnvReference
import PipeLoom.Project.Artifact
import PipeLoom.Project.Config
import PipeLoom.Project.Saved
import PipeLoom.Provider.Cloud
import PipeLoom.Provider.Config
import PipeLoom.Release.Pattern
import PipeLoom.Release.Tag
import PipeLoom.Release.Version
import PipeLoom.Selection.Basic
import PipeLoom.Selection.Issue
import PipeLoom.Selection.Raw
import PipeLoom.Selection.Resolve
import PipeLoom.Selection.Yaml
import PipeLoom.StageName
import PipeLoom.Step
import PipeLoom.Step.Yaml
import PipeLoom.Text.Blank
import PipeLoom.Text.Caseless
import PipeLoom.Text.Digit
import PipeLoom.Text.Json
import PipeLoom.Text.Pattern
import PipeLoom.Text.Quoted
import PipeLoom.Text.Substring
import PipeLoom.Text.Word
import PipeLoom.Timestamp
import PipeLoom.Toml.Document
import PipeLoom.Toml.Scalar
import PipeLoom.Toml.Value
import PipeLoom.Workflow.Basic
import PipeLoom.Workflow.Emit
import PipeLoom.Yaml.Char
import PipeLoom.Yaml.Cursor
import PipeLoom.Yaml.Double
import PipeLoom.Yaml.Node
import PipeLoom.Yaml.Node.Fields
import PipeLoom.Yaml.Node.Print
import PipeLoom.Yaml.Node.Read
import PipeLoom.Yaml.Record
import PipeLoom.Yaml.Scalar
import PipeLoom.Yaml.Style
import PipeLoom.Yaml.Token
import PipeLoom.Yaml.Token.Layout
import PipeLoom.Yaml.Token.Name
import PipeLoom.Yaml.Token.Scalar
import PipeLoom.Yaml.Tree
import PipeLoom.Proofs.Catalogue.Lookup
import PipeLoom.Proofs.Catalogue.Soundness
import PipeLoom.Proofs.Selection.Chosen
import PipeLoom.Proofs.Selection.Acceptance
import PipeLoom.Proofs.Except
import PipeLoom.Proofs.Pipeline.Composable
import PipeLoom.Proofs.Pipeline.Stages
import PipeLoom.Proofs.Pipeline.Environment
import PipeLoom.Proofs.Command.Composition
import PipeLoom.Proofs.Expression.Reading
import PipeLoom.Proofs.Expression.Meaning
import PipeLoom.Proofs.Workflow.Condition
import PipeLoom.Proofs.File.Landing
import PipeLoom.Proofs.File.Writes
import PipeLoom.Proofs.File.Concealed
import PipeLoom.Proofs.Command.OwnerEdits
import PipeLoom.Proofs.Workflow.Jobs
import PipeLoom.Proofs.Workflow.Environment
import PipeLoom.Proofs.Text.Pattern
import PipeLoom.Proofs.Text.Decimal
import PipeLoom.Proofs.Release.Version
import PipeLoom.Proofs.Release.Pattern
import PipeLoom.Proofs.Release.Tag
import PipeLoom.Proofs.Text.Blank
import PipeLoom.Proofs.Selection.Given
import PipeLoom.Proofs.Selection.RoundTrip
import PipeLoom.Proofs.Selection.Hooks
import PipeLoom.Proofs.Project.Writing
import PipeLoom.Proofs.Command.Step
import PipeLoom.Proofs.Yaml.Reading
import PipeLoom.Proofs.Yaml.Equality
import PipeLoom.Proofs.Yaml.ReadBack
import PipeLoom.Proofs.Yaml.Written
import PipeLoom.Proofs.Command.Enabled
import PipeLoom.Proofs.Project.Generated
import PipeLoom.Proofs.Project.Regeneration
import PipeLoom.Proofs.Project.Comparison
import PipeLoom.Proofs.Command.Standing
import PipeLoom.Proofs.Command.History
import PipeLoom.Proofs.Workflow.Needs
import PipeLoom.Proofs.Selection.Conflicts
import PipeLoom.Proofs.Selection.Report
import PipeLoom.Proofs.Selection.Requirements
import PipeLoom.Proofs.Intent.Classification
import PipeLoom.Proofs.Command.Untouched
import PipeLoom.Proofs.Command.Interrupted
import PipeLoom.Proofs.Provider.Document
import PipeLoom.Proofs.Provider.Settings
import PipeLoom.Proofs.Yaml.Place
import PipeLoom.Proofs.Yaml.Comment
import PipeLoom.Proofs.Workflow.Document
import PipeLoom.Proofs.Workflow.Header
import PipeLoom.Proofs.Catalogue.Extension
import PipeLoom.Proofs.Expression.Containment
import PipeLoom.Proofs.Pipeline.Emergency
import PipeLoom.Proofs.Workflow.Hotfix
import PipeLoom.Proofs.Catalogue.Overlay
import PipeLoom.Proofs.Catalogue.Calls
import PipeLoom.Proofs.Catalogue.Merging
import PipeLoom.Proofs.Pipeline.Overriding
import PipeLoom.Proofs.Pipeline.Renaming
import PipeLoom.Proofs.Pipeline.Steps
import PipeLoom.Proofs.Pipeline.Hooks
import PipeLoom.Proofs.Project.Placement
import PipeLoom.Proofs.Pipeline.EnvReference
import PipeLoom.Proofs.Pipeline.Warnings
import PipeLoom.Proofs.Selection.Agreement
import PipeLoom.Proofs.Pipeline.FreeName
import PipeLoom.Proofs.Yaml.Fields
import PipeLoom.Proofs.Release.RoundTrip
import PipeLoom.Proofs.Workflow.Reading
import PipeLoom.Proofs.Workflow.Noninterference
