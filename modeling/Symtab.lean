import Symtab.Arguments.Basic
import Symtab.Arguments.Invocation
import Symtab.Builtin
import Symtab.Collect
import Symtab.Command
import Symtab.Comment
import Symtab.Config.Basic
import Symtab.Config.Extensions
import Symtab.Config.Json
import Symtab.Config.Load
import Symtab.Config.Yaml
import Symtab.Dedup
import Symtab.FileTree
import Symtab.Glob.Basic
import Symtab.Glob.Parse
import Symtab.Json.Basic
import Symtab.Json.Parse
import Symtab.Json.Print
import Symtab.Kind
import Symtab.Language.Basic
import Symtab.Language.Sample
import Symtab.Main
import Symtab.Pattern.Basic
import Symtab.Pattern.Match
import Symtab.Proofs.Cascade
import Symtab.Proofs.Dedup
import Symtab.Proofs.Lines
import Symtab.Proofs.Read
import Symtab.Proofs.RuleTables
import Symtab.Proofs.Scan
import Symtab.Proofs.Scopes
import Symtab.Query
import Symtab.Report.Document
import Symtab.Report.Format
import Symtab.Report.Record
import Symtab.Report.Style
import Symtab.Report.Table
import Symtab.Rules
import Symtab.Rules.C
import Symtab.Rules.CSharp
import Symtab.Rules.Cpp
import Symtab.Rules.Go
import Symtab.Rules.Java
import Symtab.Rules.JavaScript
import Symtab.Rules.Python
import Symtab.Rules.Rust
import Symtab.Scan.Basic
import Symtab.Scan.Context
import Symtab.Scan.Rule
import Symtab.Scan.Words
import Symtab.Scope
import Symtab.Statistics
import Symtab.Symbol
import Symtab.Text.Alphanumeric
import Symtab.Text.Basic
import Symtab.Text.Cut
import Symtab.Text.Lower
import Symtab.Text.LowerTable
import Symtab.Text.Printable
import Symtab.Text.Quoted
import Symtab.Text.Utf8
import Symtab.Text.Word
import Symtab.Yaml.Input
import Symtab.Yaml.Lexer
import Symtab.Yaml.Node
import Symtab.Yaml.Scalar
import Symtab.Yaml.Token
import Symtab.Proofs.Layout
import Symtab.Proofs.Excerpt
import Symtab.Proofs.Provenance
import Symtab.Proofs.LineForms
import Symtab.Proofs.Repetition
import Symtab.Proofs.Printed
import Symtab.Proofs.JavaScriptLines
import Symtab.Proofs.JavaScriptTree
import Symtab.Proofs.RustLines
import Symtab.Proofs.RustTree
import Symtab.Proofs.LeadingWords
import Symtab.Proofs.JavaLines
import Symtab.Proofs.JavaTree
import Symtab.Proofs.GoLines
import Symtab.Proofs.GoTree
import Symtab.Proofs.Extension
import Symtab.Proofs.BodyBrace
import Symtab.Proofs.BracePlacement
import Symtab.Proofs.LeftOpen
import Symtab.Proofs.DeclaredScopes
import Symtab.Proofs.BuiltinCalls
import Symtab.Proofs.Directives
import Symtab.Proofs.ControlFlow
import Symtab.Proofs.Exhaustive
import Symtab.Proofs.WordEdges
import Symtab.Proofs.ByteOrder
import Symtab.Proofs.Collection
import Symtab.Proofs.Documents
import Symtab.Proofs.ExitCodes
import Symtab.Proofs.WholeWords
import Symtab.Proofs.Queries
import Symtab.Proofs.KindTotals
import Symtab.Proofs.ImportTrees
import Symtab.Proofs.DeclaredTypes
import Symtab.Proofs.GoGroups
import Symtab.Proofs.NameLists
import Symtab.Proofs.SpecLines
import Symtab.Proofs.GroupMarks
import Symtab.Proofs.PythonVariables
import Symtab.Proofs.PythonImports
import Symtab.Proofs.MemberLines
import Symtab.Proofs.OutOfLineMembers
import Symtab.Proofs.SearchTerms
import Symtab.Proofs.WordGaps
import Symtab.Proofs.Destructuring
import Symtab.Proofs.DollarNames
import Symtab.Proofs.Cleaning
import Symtab.Proofs.CleanNames
import Symtab.Proofs.DeclarationWords
import Symtab.Proofs.Decoration
import Symtab.Proofs.ScopeHistory
import Symtab.Proofs.ExtensionOverrides
