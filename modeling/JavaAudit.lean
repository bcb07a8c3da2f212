import JavaAudit.Audit.Basic
import JavaAudit.Audit.Target
import JavaAudit.Audit.Walk
import JavaAudit.CommandLine.Arguments
import JavaAudit.CommandLine.Help
import JavaAudit.CommandLine.Run
import JavaAudit.CommandLine.Switch
import JavaAudit.CommandLine.Token
import JavaAudit.CompilationUnit.Basic
import JavaAudit.CompilationUnit.Declaration
import JavaAudit.CompilationUnit.Header
import JavaAudit.CompilationUnit.Lookup
import JavaAudit.CompilationUnit.Recollection
import JavaAudit.CompilationUnit.Reference
import JavaAudit.CompilationUnit.Symbol
import JavaAudit.CompilationUnit.TypeTable
import JavaAudit.Decimal.Binary
import JavaAudit.Decimal.Fixed
import JavaAudit.Decimal.Shortest
import JavaAudit.Expression.Concatenation
import JavaAudit.Expression.Constant
import JavaAudit.Expression.Typing
import JavaAudit.Files.Basic
import JavaAudit.Files.Path
import JavaAudit.Files.Snapshot
import JavaAudit.Finding.Basic
import JavaAudit.Finding.Selection
import JavaAudit.Finding.Severity
import JavaAudit.Finding.Suppression
import JavaAudit.Inquiry
import JavaAudit.Main
import JavaAudit.Report.Block
import JavaAudit.Report.Json
import JavaAudit.Report.Layout
import JavaAudit.Report.PlainText
import JavaAudit.Report.Screen
import JavaAudit.Report.Summary
import JavaAudit.Report.Timestamp
import JavaAudit.Rule.Basic
import JavaAudit.Rule.CommandInjection
import JavaAudit.Rule.Deserialization
import JavaAudit.Rule.FirstArgument
import JavaAudit.Rule.InformationLeak
import JavaAudit.Rule.Registry
import JavaAudit.Rule.ResourceLeak
import JavaAudit.Rule.Sink
import JavaAudit.Rule.SqlInjection
import JavaAudit.Rule.Template
import JavaAudit.Rule.Wording
import JavaAudit.Settings.Basic
import JavaAudit.Settings.Discovery
import JavaAudit.Settings.Reader
import JavaAudit.SyntaxTree.Basic
import JavaAudit.SyntaxTree.Excerpt
import JavaAudit.SyntaxTree.Kind
import JavaAudit.SyntaxTree.Position
import JavaAudit.SyntaxTree.Row
import JavaAudit.SyntaxTree.Walk
import JavaAudit.Table
import JavaAudit.Text.CharacterClass
import JavaAudit.Text.Glob
import JavaAudit.Text.Letter
import JavaAudit.Text.LetterCase
import JavaAudit.Text.Printable
import JavaAudit.Text.Quoted
import JavaAudit.Text.Search
import JavaAudit.Text.Utf8
import JavaAudit.Text.Word
import JavaAudit.TypeName.Catalogue
import JavaAudit.TypeName.Erasure
import JavaAudit.TypeName.Hierarchy
import JavaAudit.Value.Basic
import JavaAudit.Value.Json
import JavaAudit.Value.Printer
import JavaAudit.Proofs.Ancestry
import JavaAudit.Proofs.TextContainment
import JavaAudit.Proofs.Flattening
import JavaAudit.Proofs.PlusChain
import JavaAudit.Proofs.ChainLeaves
import JavaAudit.Proofs.QueryReports
import JavaAudit.Proofs.Dispatch
import JavaAudit.Proofs.Preorder
import JavaAudit.Proofs.Reachability
import JavaAudit.Proofs.Traversal
import JavaAudit.Proofs.Bindings
import JavaAudit.Proofs.Scoping
import JavaAudit.Proofs.Tables
import JavaAudit.Proofs.DeclaredTypes
import JavaAudit.Proofs.FieldAccess
import JavaAudit.Proofs.Reliability
import JavaAudit.Proofs.ReturnedMessages
import JavaAudit.Proofs.Positions
import JavaAudit.Proofs.ReportOrder
import JavaAudit.Proofs.AuditedFiles
import JavaAudit.Proofs.SourceOrder
import JavaAudit.Proofs.Reporting
import JavaAudit.Proofs.Initializers
import JavaAudit.Proofs.QuerySearch
import JavaAudit.Proofs.Registration
import JavaAudit.Proofs.Decoding
import JavaAudit.Proofs.DisabledRules
import JavaAudit.Proofs.SettingsFaults
import JavaAudit.Proofs.Lineage
import JavaAudit.Proofs.MemberLookup
import JavaAudit.Proofs.ReleasedResources
import JavaAudit.Proofs.ClassifierDepth
import JavaAudit.Proofs.NestedBrackets
import JavaAudit.Proofs.TypeErasure
import JavaAudit.Proofs.TypeNaming
import JavaAudit.Proofs.HiddenFields
import JavaAudit.Proofs.DeepQuery
import JavaAudit.Proofs.QueryDepth
import JavaAudit.Proofs.CallChains
import JavaAudit.Proofs.SuppressionComments
import JavaAudit.Proofs.NearestSettings
import JavaAudit.Proofs.SettingsValues
import JavaAudit.Proofs.StableOrder
import JavaAudit.Proofs.Tallies
import JavaAudit.Proofs.Renderings
import JavaAudit.Proofs.Paths
import JavaAudit.Proofs.InheritedFields
import JavaAudit.Proofs.SufficientRoom
import JavaAudit.Proofs.Recalling
import JavaAudit.Proofs.TabulatedTrees
import JavaAudit.Proofs.DeepAccess
import JavaAudit.Proofs.NestedLiterals
