import ScriptTidy.Command.Basic
import ScriptTidy.Command.Complaint
import ScriptTidy.Command.Execute
import ScriptTidy.Command.FileJob
import ScriptTidy.Command.Reader
import ScriptTidy.Command.Similarity
import ScriptTidy.Command.Usage
import ScriptTidy.Config.Basic
import ScriptTidy.Config.Lookup
import ScriptTidy.Config.Sample
import ScriptTidy.Data.Decimal
import ScriptTidy.Data.Json.Basic
import ScriptTidy.Data.Json.Reader
import ScriptTidy.Data.Toml.Basic
import ScriptTidy.Data.Toml.Reader
import ScriptTidy.Data.Toml.Scalar
import ScriptTidy.Diff.Compaction
import ScriptTidy.Diff.Hunk
import ScriptTidy.Diff.Script
import ScriptTidy.Edit.Basic
import ScriptTidy.Edit.EditSet
import ScriptTidy.Files.FileSystem
import ScriptTidy.Files.Glob
import ScriptTidy.Files.IgnoreRules
import ScriptTidy.Files.Path
import ScriptTidy.Files.Walk
import ScriptTidy.Main
import ScriptTidy.Names.CamelCase
import ScriptTidy.Names.Outline
import ScriptTidy.Names.ScopeTree
import ScriptTidy.Names.Summary
import ScriptTidy.Names.Usage
import ScriptTidy.Pattern.Basic
import ScriptTidy.Pattern.CharSet
import ScriptTidy.Pattern.Error
import ScriptTidy.Pattern.Reader
import ScriptTidy.Pipeline
import ScriptTidy.Report.Account
import ScriptTidy.Report.Document
import ScriptTidy.Report.Style
import ScriptTidy.Report.Table
import ScriptTidy.Rule.Basic
import ScriptTidy.Rule.Bindings
import ScriptTidy.Rule.Casing
import ScriptTidy.Rule.Check
import ScriptTidy.Rule.UnusedImports
import ScriptTidy.Rule.UnusedVariables
import ScriptTidy.Session
import ScriptTidy.Syntax.BareNode
import ScriptTidy.Syntax.Build
import ScriptTidy.Syntax.Dialect
import ScriptTidy.Syntax.Kind
import ScriptTidy.Syntax.Node
import ScriptTidy.Syntax.Tree
import ScriptTidy.Syntax.TreeTable
import ScriptTidy.Text.CaseTable
import ScriptTidy.Text.CharTable
import ScriptTidy.Text.LetterCase
import ScriptTidy.Text.ScriptTable
import ScriptTidy.Text.Slice
import ScriptTidy.Text.Span
import ScriptTidy.Text.Width
import ScriptTidy.Tools
import ScriptTidy.Workspace
import ScriptTidy.Proofs.Edit.Merge
import ScriptTidy.Proofs.Edit.Apply
import ScriptTidy.Proofs.Names.Mentions
import ScriptTidy.Proofs.Names.ScopeRecord
import ScriptTidy.Proofs.Names.Renaming
import ScriptTidy.Proofs.Rule.Casing
import ScriptTidy.Proofs.Names.Resolution
import ScriptTidy.Proofs.Edit.Deletions
import ScriptTidy.Proofs.Rule.Removal
import ScriptTidy.Proofs.Rule.UnusedVariables
import ScriptTidy.Proofs.Edit.InPlace
import ScriptTidy.Proofs.Names.Regions
import ScriptTidy.Proofs.Names.Softening
import ScriptTidy.Proofs.Names.SofterTree
import ScriptTidy.Proofs.Rule.Bindings
import ScriptTidy.Proofs.Names.Places
import ScriptTidy.Proofs.Names.Sites
import ScriptTidy.Proofs.Names.Exports
import ScriptTidy.Proofs.Rule.ExportedNames
import ScriptTidy.Proofs.Run.Sessions
import ScriptTidy.Proofs.Run.Stages
import ScriptTidy.Proofs.Rule.UnusedImports
import ScriptTidy.Proofs.Rule.Harmony
import ScriptTidy.Proofs.Names.References
import ScriptTidy.Proofs.Rule.KeptImports
import ScriptTidy.Proofs.Rule.LeastRemoval
import ScriptTidy.Proofs.Run.Verification
import ScriptTidy.Proofs.Names.Meanings
import ScriptTidy.Proofs.Names.Surroundings
import ScriptTidy.Proofs.Names.Parameters
import ScriptTidy.Proofs.Rule.Settled
import ScriptTidy.Proofs.Run.SecondRun
import ScriptTidy.Proofs.Edit.InOrder
import ScriptTidy.Proofs.Edit.Agenda
import ScriptTidy.Proofs.Edit.Dropped
import ScriptTidy.Proofs.Edit.Reordering
import ScriptTidy.Proofs.Edit.Overlap
import ScriptTidy.Proofs.Rule.Separators
import ScriptTidy.Proofs.Rule.Renamed
import ScriptTidy.Proofs.Rule.ImportText
import ScriptTidy.Proofs.Rule.SecondRemoval
import ScriptTidy.Proofs.Edit.Tiles
import ScriptTidy.Proofs.Syntax.Copies
import ScriptTidy.Proofs.Syntax.Tiling
import ScriptTidy.Proofs.Rule.RenameEdits
import ScriptTidy.Proofs.Names.SofterNames
import ScriptTidy.Proofs.Names.SofterWalk
import ScriptTidy.Proofs.Rule.SecondConversion
import ScriptTidy.Proofs.Syntax.Covering
import ScriptTidy.Proofs.Names.CamelCase
import ScriptTidy.Proofs.Names.Patterns
import ScriptTidy.Proofs.Names.Summary
import ScriptTidy.Proofs.Rule.ExaminedNames
import ScriptTidy.Proofs.Files.Paths
import ScriptTidy.Proofs.Config.Nearest
import ScriptTidy.Proofs.Files.Contents
import ScriptTidy.Proofs.Run.FileJobs
import ScriptTidy.Proofs.Run.Schedules
import ScriptTidy.Proofs.Run.Interference
import ScriptTidy.Proofs.Names.Innermost
import ScriptTidy.Proofs.Syntax.Positions
import ScriptTidy.Proofs.Syntax.Rounds
import ScriptTidy.Proofs.Names.Identifiers
import ScriptTidy.Proofs.Names.Enclosing
import ScriptTidy.Proofs.Names.Hoisting
