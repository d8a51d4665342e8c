import LayoutSync.CommandLine.Arguments
import LayoutSync.CommandLine.Run
import LayoutSync.Decimal.Shortest
import LayoutSync.Dict
import LayoutSync.Fallible
import LayoutSync.FileTree.Access
import LayoutSync.FileTree.Basic
import LayoutSync.ImportTable.Basic
import LayoutSync.ImportTable.Discovery
import LayoutSync.Json.Fault
import LayoutSync.Json.NumberLiteral
import LayoutSync.Json.Printer
import LayoutSync.Json.Punctuation
import LayoutSync.Json.Reader
import LayoutSync.Json.Real
import LayoutSync.Json.Record
import LayoutSync.Json.StringLiteral
import LayoutSync.Json.Value
import LayoutSync.Layout.Canonical
import LayoutSync.Layout.Index
import LayoutSync.Layout.Parameters
import LayoutSync.Layout.ParentPolicy
import LayoutSync.Layout.Visit
import LayoutSync.Main
import LayoutSync.Markup.Attribute
import LayoutSync.Markup.Document
import LayoutSync.Markup.Element
import LayoutSync.Markup.Entity
import LayoutSync.Markup.Event
import LayoutSync.Markup.Fault
import LayoutSync.Markup.Printer
import LayoutSync.Path.Basic
import LayoutSync.Pattern.Basic
import LayoutSync.Pattern.Class
import LayoutSync.Pattern.Cursor
import LayoutSync.Pattern.Escape
import LayoutSync.Pattern.Fault
import LayoutSync.Pattern.Group
import LayoutSync.Pattern.Matcher
import LayoutSync.Pattern.Meaning
import LayoutSync.Pattern.Nesting
import LayoutSync.Pattern.Parser
import LayoutSync.Pattern.Property
import LayoutSync.Pattern.Size
import LayoutSync.Pattern.Term
import LayoutSync.Proofs.FileTree.Access
import LayoutSync.Proofs.FileTree.Children
import LayoutSync.Proofs.FileTree.Clear
import LayoutSync.Proofs.FileTree.Housed
import LayoutSync.Proofs.FileTree.Making
import LayoutSync.Proofs.FileTree.Walk
import LayoutSync.Proofs.FileTree.Ways
import LayoutSync.Proofs.FileTree.WellFormed
import LayoutSync.Proofs.ImportTable.Declarations
import LayoutSync.Proofs.ImportTable.Packages
import LayoutSync.Proofs.ImportTable.Repository
import LayoutSync.Proofs.ImportTable.Winners
import LayoutSync.Proofs.Json.Extent
import LayoutSync.Proofs.Json.Grammar
import LayoutSync.Proofs.Json.Numbers
import LayoutSync.Proofs.Json.Printing
import LayoutSync.Proofs.Json.Reading
import LayoutSync.Proofs.Json.RecordExtent
import LayoutSync.Proofs.Json.RoundTrip
import LayoutSync.Proofs.Json.Skipping
import LayoutSync.Proofs.Json.Spelling
import LayoutSync.Proofs.Json.Strings
import LayoutSync.Proofs.Layout.AttributeEdits
import LayoutSync.Proofs.Layout.CanonicalForm
import LayoutSync.Proofs.Layout.Completion
import LayoutSync.Proofs.Layout.FirstOccurrence
import LayoutSync.Proofs.Layout.Flattening
import LayoutSync.Proofs.Layout.LeastCompletion
import LayoutSync.Proofs.Layout.NormalIndex
import LayoutSync.Proofs.Layout.Occurrences
import LayoutSync.Proofs.Layout.Ownership
import LayoutSync.Proofs.Layout.ParameterFile
import LayoutSync.Proofs.Layout.Provision
import LayoutSync.Proofs.Layout.References
import LayoutSync.Proofs.Layout.Renaming
import LayoutSync.Proofs.Layout.Skeleton
import LayoutSync.Proofs.Layout.Visits
import LayoutSync.Proofs.Markup.Acceptance
import LayoutSync.Proofs.Markup.Asides
import LayoutSync.Proofs.Markup.AttributeLists
import LayoutSync.Proofs.Markup.Attributes
import LayoutSync.Proofs.Markup.Escaping
import LayoutSync.Proofs.Markup.Grammar
import LayoutSync.Proofs.Markup.Intake
import LayoutSync.Proofs.Markup.Parsed
import LayoutSync.Proofs.Markup.RoundTrip
import LayoutSync.Proofs.Markup.Scanning
import LayoutSync.Proofs.Markup.Tags
import LayoutSync.Proofs.Markup.Tidy
import LayoutSync.Proofs.Path.Endings
import LayoutSync.Proofs.Path.Extensions
import LayoutSync.Proofs.Path.Joining
import LayoutSync.Proofs.Path.Relative
import LayoutSync.Proofs.Path.Siblings
import LayoutSync.Proofs.Path.Steps
import LayoutSync.Proofs.Settings.Decoding
import LayoutSync.Proofs.Settings.Documents
import LayoutSync.Proofs.Settings.Repeats
import LayoutSync.Proofs.Source.Agreement
import LayoutSync.Proofs.Source.CamelCase
import LayoutSync.Proofs.Source.HandlerNames
import LayoutSync.Proofs.Source.ModuleNames
import LayoutSync.Proofs.Source.TypeImports
import LayoutSync.Proofs.Text.Upper
import LayoutSync.Proofs.Theme.Entries
import LayoutSync.Proofs.Theme.Frames
import LayoutSync.Proofs.Theme.Grouping
import LayoutSync.Proofs.Theme.Growth
import LayoutSync.Proofs.Theme.Independence
import LayoutSync.Proofs.Theme.PropertySets
import LayoutSync.Proofs.Theme.StableText
import LayoutSync.Proofs.Theme.ThemeFile
import LayoutSync.Proofs.Theme.ViewTags
import LayoutSync.Proofs.Workspace.Artifacts
import LayoutSync.Proofs.Workspace.Commuting
import LayoutSync.Proofs.Workspace.Completeness
import LayoutSync.Proofs.Workspace.Completing
import LayoutSync.Proofs.Workspace.Contents
import LayoutSync.Proofs.Workspace.Discovery
import LayoutSync.Proofs.Workspace.Effects
import LayoutSync.Proofs.Workspace.Jobs
import LayoutSync.Proofs.Workspace.LayoutFiles
import LayoutSync.Proofs.Workspace.LayoutFilter
import LayoutSync.Proofs.Workspace.LayoutPlaces
import LayoutSync.Proofs.Workspace.Locality
import LayoutSync.Proofs.Workspace.Modules
import LayoutSync.Proofs.Workspace.Processing
import LayoutSync.Proofs.Workspace.References
import LayoutSync.Proofs.Workspace.Reporting
import LayoutSync.Proofs.Workspace.Roles
import LayoutSync.Proofs.Workspace.Runs
import LayoutSync.Proofs.Workspace.Saving
import LayoutSync.Proofs.Workspace.Sequence
import LayoutSync.Proofs.Workspace.SharedThemes
import LayoutSync.Proofs.Workspace.Stages
import LayoutSync.Proofs.Workspace.Statuses
import LayoutSync.Proofs.Workspace.ThemeStage
import LayoutSync.Proofs.Workspace.Updates
import LayoutSync.Proofs.Workspace.Writing
import LayoutSync.Settings.Basic
import LayoutSync.Settings.Decoding
import LayoutSync.Settings.Encoding
import LayoutSync.Source.Binding
import LayoutSync.Source.EventDispatch
import LayoutSync.Source.EventRules
import LayoutSync.Source.Factory
import LayoutSync.Source.File
import LayoutSync.Source.Naming
import LayoutSync.Source.PresenterBase
import LayoutSync.Source.Request
import LayoutSync.Text.Age
import LayoutSync.Text.BinaryProperty
import LayoutSync.Text.Blank
import LayoutSync.Text.Boundary
import LayoutSync.Text.Bytes
import LayoutSync.Text.CaseShift
import LayoutSync.Text.Category
import LayoutSync.Text.Folding
import LayoutSync.Text.Property
import LayoutSync.Text.PropertyName
import LayoutSync.Text.Quoted
import LayoutSync.Text.Ranges
import LayoutSync.Text.Script
import LayoutSync.Text.ScriptExtension
import LayoutSync.Text.Upper
import LayoutSync.Text.Word
import LayoutSync.Theme.Basic
import LayoutSync.Theme.Sync
import LayoutSync.Workspace.Fault
import LayoutSync.Workspace.Generator
import LayoutSync.Workspace.LayoutPaths
import LayoutSync.Workspace.Report
