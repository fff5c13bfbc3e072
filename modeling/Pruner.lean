import Pruner.Text.Category
import Pruner.Text.Basic
import Pruner.Text.Printable
import Pruner.Text.NormalTable
import Pruner.Text.Normal
import Pruner.Text.CharacterNameTable
import Pruner.Text.CharacterName
import Pruner.Token.Basic
import Pruner.Token.Shape
import Pruner.Token.Scan
import Pruner.Number.Binary64
import Pruner.Constant
import Pruner.Syntax.Tree
import Pruner.Syntax.Numeral
import Pruner.Syntax.Lex
import Pruner.Syntax.Escape
import Pruner.Syntax.Format
import Pruner.Syntax.LexemeParser
import Pruner.Syntax.Expression
import Pruner.Syntax.Params
import Pruner.Syntax.PatternGrammar
import Pruner.Syntax.Statement
import Pruner.Literal
import Pruner.Fault
import Pruner.Rule.Import
import Pruner.Rule.Variable
import Pruner.Rule.StarImport
import Pruner.Rule.UselessPass
import Pruner.Diagnostic
import Pruner.Rule.DuplicateKey
import Pruner.StandardModule
import Pruner.Fix
import Pruner.Scope.Basic
import Pruner.Scope.Walk
import Pruner.Scope.RepeatedKey
import Pruner.Scope.Expression
import Pruner.Scope.Statement
import Pruner.Scope.Check
import Pruner.Diff.Align
import Pruner.Diff.Unified
import Pruner.Encoding.Utf8
import Pruner.Encoding.Codec
import Pruner.Encoding.Charset
import Pruner.Encoding.Detect
import Pruner.Files.Glob
import Pruner.Files.Tree
import Pruner.Files.Find
import Pruner.Command.Usage
import Pruner.Command.Arguments
import Pruner.Command.Run
import Pruner.Main
import Pruner.Proofs.Text.Blank
import Pruner.Proofs.Text.Pieces
import Pruner.Proofs.Text.Lines
import Pruner.Proofs.Text.Words
import Pruner.Proofs.Text.Clauses
import Pruner.Proofs.Rule.Import
import Pruner.Proofs.Rule.Variable
import Pruner.Proofs.Rule.StarImport
import Pruner.Proofs.Token.Reach
import Pruner.Proofs.Fix.Round
import Pruner.Proofs.Fix.Cost
import Pruner.Proofs.Fix.Edits
import Pruner.Proofs.Fix.ImportEdits
import Pruner.Proofs.Fix.Termination
import Pruner.Proofs.Fix.Continuation
import Pruner.Proofs.Token.Move
import Pruner.Proofs.Token.Outline
import Pruner.Proofs.Token.Shape
import Pruner.Proofs.Token.Statement
import Pruner.Proofs.Token.Invariant
import Pruner.Proofs.Token.PassLine
import Pruner.Proofs.Rule.UselessPass
import Pruner.Proofs.Rule.BlockStructure
import Pruner.Proofs.Token.Blocks
import Pruner.Proofs.Import.Syntax
import Pruner.Proofs.Rule.FlatLines
import Pruner.Proofs.Import.Line
import Pruner.Proofs.Import.Edit
import Pruner.Proofs.Import.Report
import Pruner.Proofs.Fix.ImportRemoval
import Pruner.Proofs.Text.LineSum
import Pruner.Proofs.Fix.Run
import Pruner.Proofs.Fix.OnlyImports
import Pruner.Proofs.Fix.Comments
import Pruner.Proofs.Fix.Idempotence
import Pruner.Proofs.Rule.Packages
import Pruner.Proofs.Fix.ForeignImports
import Pruner.Proofs.Text.Identifier
import Pruner.Proofs.Key.Equality
import Pruner.Proofs.Rule.DuplicateKey
import Pruner.Proofs.Fix.DiagnosticOrder
import Pruner.Proofs.Fix.Layout
import Pruner.Proofs.Diff.Alignment
import Pruner.Proofs.Diff.Patch
import Pruner.Proofs.Files.Tree
import Pruner.Proofs.Command.Run
import Pruner.Proofs.Diff.Unified
import Pruner.Proofs.Literal.Atom
import Pruner.Proofs.Literal.Forms
import Pruner.Proofs.Scope.RepeatedKey
import Pruner.Proofs.Rule.Entry
import Pruner.Proofs.Fix.KeyRemoval
import Pruner.Proofs.Files.Below
import Pruner.Proofs.Files.Find
import Pruner.Proofs.Command.FileOrder
import Pruner.Proofs.Token.Runs
import Pruner.Proofs.Token.Tail
import Pruner.Proofs.Command.ImportsOption
import Pruner.Proofs.Text.LineEnds
import Pruner.Proofs.Rule.LineEnds
import Pruner.Proofs.Rule.ImportLineEnds
import Pruner.Proofs.Fix.LineEnds
import Pruner.Proofs.Encoding.Utf8
import Pruner.Proofs.Encoding.Detect
import Pruner.Proofs.Encoding.Charset
import Pruner.Proofs.Fix.TopLines
import Pruner.Proofs.Command.ReadBack
import Pruner.Proofs.Import.Spacing
import Pruner.Proofs.Rule.SeparateImports
import Pruner.Proofs.Rule.ImportOrder
import Pruner.Proofs.Rule.ReportedNames
import Pruner.Proofs.Token.Span
import Pruner.Proofs.Rule.ContinuedPass
import Pruner.Proofs.Fix.StarExpansion
import Pruner.Proofs.Rule.AcceptedEntries
import Pruner.Proofs.Rule.AssignedValue
import Pruner.Proofs.Literal.Breaks
import Pruner.Proofs.Import.Grammar
import Pruner.Proofs.Rule.Refusals
import Pruner.Proofs.Key.Value
import Pruner.Proofs.Rule.KeyGroups
import Pruner.Proofs.Fix.KeptEntries
import Pruner.Proofs.Files.Permitted
import Pruner.Proofs.Rule.Reprint
