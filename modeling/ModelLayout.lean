import ModelLayout.Arguments
import ModelLayout.Category
import ModelLayout.Collection
import ModelLayout.CommandLine
import ModelLayout.Comment
import ModelLayout.Configuration
import ModelLayout.Declaration
import ModelLayout.Disk
import ModelLayout.Path
import ModelLayout.Editor.Position
import ModelLayout.Editor.Session
import ModelLayout.Heading
import ModelLayout.Json
import ModelLayout.LogLevel
import ModelLayout.Machine
import ModelLayout.Shell.Arguments
import ModelLayout.Shell.CommandLine
import ModelLayout.Shell.Server
import ModelLayout.Main
import ModelLayout.Outline.Basic
import ModelLayout.Outline.Preorder
import ModelLayout.Placement
import ModelLayout.Report
import ModelLayout.Report.Basic
import ModelLayout.Report.Json
import ModelLayout.Report.Text
import ModelLayout.Review
import ModelLayout.Rose
import ModelLayout.Ruby.Tree
import ModelLayout.Settings
import ModelLayout.Shell.SettingsFile
import ModelLayout.Shell.Snapshot
import ModelLayout.Span
import ModelLayout.Text.Blank
import ModelLayout.Shell.Unicode.CombiningClass
import ModelLayout.Shell.Unicode.Composed
import ModelLayout.Shell.Unicode.Composites
import ModelLayout.Text.Digits
import ModelLayout.Shell.Unicode.Direction
import ModelLayout.Shell.Unicode.Joining
import ModelLayout.Text.Lines
import ModelLayout.Text.Pieces
import ModelLayout.Shell.Unicode.Rows
import ModelLayout.Text.Units
import ModelLayout.Shell.Toml.Document
import ModelLayout.Shell.Toml.Quoted
import ModelLayout.Shell.Toml.Reader
import ModelLayout.Shell.Toml.Scalar
import ModelLayout.Shell.Toml.Table
import ModelLayout.Shell.Toml.Value
import ModelLayout.Shell.Uri
import ModelLayout.Shell.Uri.Domain
import ModelLayout.Shell.Uri.Host
import ModelLayout.Shell.Uri.Mapping
import ModelLayout.Shell.Uri.Path
import ModelLayout.Shell.Uri.Percent
import ModelLayout.Shell.Uri.Punycode
import ModelLayout.Proofs.RequiredOrder
import ModelLayout.Proofs.Review
import ModelLayout.Proofs.Association
import ModelLayout.Proofs.ParseTree
import ModelLayout.Proofs.NodeRanges
import ModelLayout.Proofs.Heading
import ModelLayout.Proofs.StableSort
import ModelLayout.Proofs.Independence
import ModelLayout.Proofs.Scope
import ModelLayout.Proofs.SectionComment
import ModelLayout.Proofs.Sequence
import ModelLayout.Proofs.Group
import ModelLayout.Proofs.DocumentOrder
import ModelLayout.Proofs.Shapes
import ModelLayout.Proofs.SourceOrder
import ModelLayout.Proofs.WithoutComments
import ModelLayout.Proofs.Session
import ModelLayout.Proofs.Relaxation
import ModelLayout.Proofs.Position
import ModelLayout.Proofs.Provenance
import ModelLayout.Proofs.Members
import ModelLayout.Proofs.PathOrder
import ModelLayout.Proofs.Forest
import ModelLayout.Proofs.Sharing
import ModelLayout.Proofs.ByteOrder
import ModelLayout.Proofs.Validation
import ModelLayout.Proofs.Relabel
import ModelLayout.Proofs.Containment
import ModelLayout.Proofs.Displacement
import ModelLayout.Proofs.JsonText
import ModelLayout.Proofs.MethodNames
import ModelLayout.Proofs.Report
import ModelLayout.Proofs.CategoryNames
import ModelLayout.Proofs.Walk
import ModelLayout.Outline.Lowering
import ModelLayout.Proofs.Paths
import ModelLayout.Proofs.Disk
import ModelLayout.Proofs.Collection
import ModelLayout.Proofs.Outcome
import ModelLayout.Proofs.Spellings
