import PriorArt.Brackets
import PriorArt.Catalogue
import PriorArt.Classification
import PriorArt.CommandLine.Arguments
import PriorArt.CommandLine.Console
import PriorArt.CommandLine.Emoji
import PriorArt.CommandLine.EmojiTable
import PriorArt.CommandLine.Help
import PriorArt.CommandLine.Markup
import PriorArt.CommandLine.Outcome
import PriorArt.CommandLine.Path
import PriorArt.CommandLine.Request
import PriorArt.CommandLine.Run
import PriorArt.CommandLine.Surroundings
import PriorArt.Compose
import PriorArt.Entity
import PriorArt.Expr.Basic
import PriorArt.Expr.Interchange
import PriorArt.Expr.LogicalForm
import PriorArt.Import
import PriorArt.Json
import PriorArt.Main
import PriorArt.Meaning
import PriorArt.Parts
import PriorArt.Query.Factor
import PriorArt.Query.Phrase
import PriorArt.Settings
import PriorArt.Spelling
import PriorArt.Statement
import PriorArt.Text.Basic
import PriorArt.Text.CaseTable
import PriorArt.Text.Letter
import PriorArt.Text.Numeral
import PriorArt.Text.Quoted
import PriorArt.Text.VisibilityTable
import PriorArt.Text.WidthTable
import PriorArt.Token
import PriorArt.TokenSource
import PriorArt.Toml.Reader
import PriorArt.Toml.Tables
import PriorArt.Toml.Value
import PriorArt.Toml.Writer
import PriorArt.Workbook
import PriorArt.Workspace
import PriorArt.Proofs.Reading
import PriorArt.Proofs.Statement.Derivation
import PriorArt.Proofs.Statement.Grammar
import PriorArt.Proofs.Token.Distance
import PriorArt.Proofs.Expr.Flat
import PriorArt.Proofs.Expr.Leaves
import PriorArt.Proofs.Statement.LogicalForm
import PriorArt.Proofs.Catalogue.Contents
import PriorArt.Proofs.Catalogue.Stored
import PriorArt.Proofs.Catalogue.Indexes
import PriorArt.Proofs.Catalogue.Ids
import PriorArt.Proofs.Catalogue.Release
import PriorArt.Proofs.Workspace.Steps
import PriorArt.Proofs.Compose.Runs
import PriorArt.Proofs.Workbook.Failure
import PriorArt.Proofs.Workbook.Lines
import PriorArt.Proofs.Workbook.Numbering
import PriorArt.Proofs.Statement.Parsed
import PriorArt.Proofs.Workbook.References
import PriorArt.Proofs.Expr.Agreement
import PriorArt.Proofs.Catalogue.Agreement
import PriorArt.Proofs.Expr.Rewriting
import PriorArt.Proofs.Catalogue.SpelledWords
import PriorArt.Proofs.Workbook.Values
import PriorArt.Proofs.Query.Rows
import PriorArt.Proofs.Query.Breaks
import PriorArt.Proofs.Query.RowReads
import PriorArt.Proofs.Query.RowTexts
import PriorArt.Proofs.Query.Distances
import PriorArt.Proofs.Query.RowFactors
import PriorArt.Proofs.Query.ExprRows
import PriorArt.Proofs.Query.RowOperators
import PriorArt.Proofs.Query.CommonTrees
import PriorArt.Proofs.Statement.Built
import PriorArt.Proofs.Query.LaidOut
import PriorArt.Proofs.Query.CodeRows
import PriorArt.Proofs.Query.PartsLaidOut
import PriorArt.Proofs.Query.Accepted
import PriorArt.Proofs.Catalogue.Tokens
import PriorArt.Proofs.Catalogue.PlainContents
import PriorArt.Proofs.Workbook.PlainLines
import PriorArt.Proofs.Brackets.Nested
import PriorArt.Proofs.Query.Plain
import PriorArt.Proofs.Query.Tidy
import PriorArt.Proofs.Query.Reads
import PriorArt.Proofs.Query.Says
import PriorArt.Proofs.Query.Written
import PriorArt.Proofs.Query.WordTrees
import PriorArt.Proofs.Query.CodeTrees
import PriorArt.Proofs.Query.ReadBack
import PriorArt.Proofs.Expr.NestedIntersections
import PriorArt.Proofs.Workspace.Operations
import PriorArt.Proofs.Workspace.Takeovers
import PriorArt.Proofs.Catalogue.Labels
import PriorArt.Proofs.Token.Identifiers
import PriorArt.Proofs.Query.GroupSearch
import PriorArt.Proofs.Workbook.Labels
import PriorArt.Proofs.Workbook.Names
import PriorArt.Proofs.Workbook.Reports
import PriorArt.Proofs.Spelling.Normal
import PriorArt.Proofs.Query.ReadTerms
import PriorArt.Proofs.Query.Terminals
import PriorArt.Proofs.Query.Derivation
import PriorArt.Proofs.Query.DerivedPhrases
import PriorArt.Proofs.Query.ReadFactors
import PriorArt.Proofs.Query.WordContent
import PriorArt.Proofs.Catalogue.Additions
import PriorArt.Proofs.Catalogue.Growth
import PriorArt.Proofs.Catalogue.Restored
import PriorArt.Proofs.Catalogue.Writes
import PriorArt.Proofs.Import.Steps
import PriorArt.Proofs.Workspace.Writes
import PriorArt.Proofs.Import.Repeats
import PriorArt.Proofs.Import.Roots
import PriorArt.Proofs.Import.Factors
import PriorArt.Proofs.Import.Runs
import PriorArt.Proofs.Import.Failures
import PriorArt.Proofs.Workspace.Requests
import PriorArt.Proofs.Import.CleanFailures
import PriorArt.Proofs.Catalogue.Grounded
import PriorArt.Proofs.Workspace.Grounded
import PriorArt.Proofs.Workspace.IssuedIds
import PriorArt.Proofs.Workspace.Limits
import PriorArt.Proofs.Catalogue.Circles
import PriorArt.Proofs.Catalogue.WrittenOut
import PriorArt.Proofs.Query.Kinds
import PriorArt.Proofs.Import.Outcomes
import PriorArt.Proofs.Import.Frame
import PriorArt.Proofs.Query.SameTexts
import PriorArt.Proofs.Expr.Denotation
import PriorArt.Proofs.Query.RowDenotation
import PriorArt.Proofs.Query.PlainUnions
import PriorArt.Proofs.Query.Operands
import PriorArt.Proofs.Query.SaidFactors
import PriorArt.Proofs.Import.TypedWords
import PriorArt.Proofs.Import.TypedRoots
import PriorArt.Proofs.Import.Faithful
import PriorArt.Proofs.Workspace.KeyedWords
import PriorArt.Proofs.Expr.Schema
import PriorArt.Proofs.Expr.Interchange
import PriorArt.Proofs.Workbook.WellFormed
import PriorArt.Proofs.Query.Contents
import PriorArt.Proofs.Query.DerivedFactors
import PriorArt.Proofs.Workspace.TokenSpace
import PriorArt.Proofs.Workspace.DrawnTokens
import PriorArt.Proofs.Brackets.Balanced
import PriorArt.Proofs.Brackets.Stripped
import PriorArt.Proofs.Brackets.StarPieces
import PriorArt.Proofs.Catalogue.Met
import PriorArt.Proofs.Query.BalancedParts
import PriorArt.Proofs.Query.ProperNearness
import PriorArt.Proofs.Query.FieldPieces
import PriorArt.Proofs.Workbook.BalancedLines
import PriorArt.Proofs.Workbook.WrittenPieces
import PriorArt.Proofs.Query.NearRows
import PriorArt.Proofs.Query.WordRows
import PriorArt.Proofs.Query.MergedAlternatives
import PriorArt.Proofs.Workspace.Substantial
import PriorArt.Proofs.Compose.Kinds
import PriorArt.Proofs.Text.Shortened
import PriorArt.Proofs.Expr.LoneUnions
import PriorArt.Proofs.Token.Blanks
import PriorArt.Proofs.Statement.Padded
import PriorArt.Proofs.Statement.Reparsed
import PriorArt.Proofs.Compose.Identity
import PriorArt.Proofs.Import.Reported
import PriorArt.Proofs.Workspace.EachStored
import PriorArt.Proofs.Workspace.Legible
import PriorArt.Proofs.Compose.Regenerated
import PriorArt.Proofs.Statement.ErrorPositions
import PriorArt.Proofs.Workspace.WritableTokens
import PriorArt.Proofs.Statement.Products
import PriorArt.Proofs.Query.Segments
import PriorArt.Proofs.Text.Lists
import PriorArt.Proofs.Spelling.Respelled
import PriorArt.Proofs.Spelling.Words
import PriorArt.Proofs.Spelling.Keys
import PriorArt.Proofs.Spelling.Variants
import PriorArt.Proofs.Query.TypedTerms
import PriorArt.Proofs.Token.Cuts
import PriorArt.Proofs.Text.Decimals
import PriorArt.Proofs.Toml.Values
import PriorArt.Proofs.Toml.Documents
import PriorArt.Proofs.Settings
import PriorArt.Proofs.Import.WidenedWords
import PriorArt.Proofs.Token.Lossless
import PriorArt.Proofs.Brackets.Enclosures
