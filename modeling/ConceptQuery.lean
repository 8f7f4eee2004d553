import ConceptQuery.Decimal.Binary
import ConceptQuery.Decimal.Shortest
import ConceptQuery.Decimal.Layout
import ConceptQuery.Decimal.Literal
import ConceptQuery.Text.RangeTable
import ConceptQuery.Text.Alphabetic
import ConceptQuery.Text.Numeric
import ConceptQuery.Text.Uppercase
import ConceptQuery.Text.Cased
import ConceptQuery.Text.Unprintable
import ConceptQuery.Text.WordBreak
import ConceptQuery.Text.Lowercase
import ConceptQuery.Text.Blank
import ConceptQuery.Text.Alphanumeric
import ConceptQuery.Text.Piece
import ConceptQuery.Text.Words
import ConceptQuery.Text.Quoted
import ConceptQuery.Unicode.RangeText
import ConceptQuery.Unicode.Category
import ConceptQuery.Unicode.Script
import ConceptQuery.Unicode.ScriptExtension
import ConceptQuery.Unicode.Binary
import ConceptQuery.Unicode.Age
import ConceptQuery.Unicode.Boundary
import ConceptQuery.Unicode.CaseFold
import ConceptQuery.Regex.Ast
import ConceptQuery.Regex.CharSet
import ConceptQuery.Regex.Error
import ConceptQuery.Regex.Parse
import ConceptQuery.Regex.Property
import ConceptQuery.Regex.Pattern
import ConceptQuery.Regex.Meaning
import ConceptQuery.Regex.Automaton
import ConceptQuery.Regex.Search
import ConceptQuery.Json.Value
import ConceptQuery.Json.Fault
import ConceptQuery.Json.Read
import ConceptQuery.Json.Skip
import ConceptQuery.Json.Kind
import ConceptQuery.Json.Write
import ConceptQuery.Error
import ConceptQuery.Log
import ConceptQuery.Analysis.Token
import ConceptQuery.Query.Term
import ConceptQuery.Query.SpanTree
import ConceptQuery.Query.Expression.Basic
import ConceptQuery.Query.Fields
import ConceptQuery.Query.Provider
import ConceptQuery.Query.Compile
import ConceptQuery.Query.Expression.Json
import ConceptQuery.Analysis.Tokenizer
import ConceptQuery.Analysis.Filter
import ConceptQuery.Analysis.Analyzer
import ConceptQuery.Query.Index
import ConceptQuery.Query.Variants
import ConceptQuery.Query.AcrossFields
import ConceptQuery.Request.Parse
import ConceptQuery.Request.Build
import ConceptQuery.Cli.Outline
import ConceptQuery.Cli.Arguments
import ConceptQuery.Cli.Files
import ConceptQuery.Cli.Documents
import ConceptQuery.Cli.Run
import ConceptQuery.Main
import ConceptQuery.Proofs.SpanTree.Nodes
import ConceptQuery.Proofs.SpanTree.Change
import ConceptQuery.Proofs.SpanTree.Invariants
import ConceptQuery.Proofs.SpanTree.Laminar
import ConceptQuery.Proofs.SpanTree.Build
import ConceptQuery.Proofs.SpanTree.Order
import ConceptQuery.Proofs.Compile.Matching
import ConceptQuery.Proofs.Fields.Names
import ConceptQuery.Proofs.Compile.Filter
import ConceptQuery.Proofs.Compile.Leaves
import ConceptQuery.Proofs.Compile.Modes
import ConceptQuery.Proofs.Weight.Unit
import ConceptQuery.Proofs.SpanTree.Positions
import ConceptQuery.Proofs.Query.AcrossFields
import ConceptQuery.Proofs.Weight.Widen
import ConceptQuery.Proofs.Json.Members
import ConceptQuery.Proofs.Request.FieldList
import ConceptQuery.Proofs.Request.Checks
import ConceptQuery.Proofs.Request.RoundTrip
import ConceptQuery.Proofs.Analysis.Stop
import ConceptQuery.Proofs.Compile.Errors
import ConceptQuery.Proofs.Compile.Shape
import ConceptQuery.Proofs.Text.Runs
import ConceptQuery.Proofs.Analysis.Delimiter
import ConceptQuery.Proofs.SpanTree.Groups
import ConceptQuery.Proofs.Analysis.Trees
import ConceptQuery.Proofs.Request.Body
import ConceptQuery.Proofs.Request.BodyChecks
import ConceptQuery.Proofs.Request.Acceptance
import ConceptQuery.Proofs.Weight.Nearest
import ConceptQuery.Proofs.Weight.Scientific
import ConceptQuery.Proofs.Decimal.Interval
import ConceptQuery.Proofs.Decimal.ReadBack
import ConceptQuery.Proofs.Fields.ListText
import ConceptQuery.Proofs.Fields.Insertions
import ConceptQuery.Proofs.Fields.JsonForms
import ConceptQuery.Proofs.Analysis.Cuts
import ConceptQuery.Proofs.Analysis.Whitespace
import ConceptQuery.Proofs.Regex.Matches
import ConceptQuery.Proofs.Analysis.Tokenizers
import ConceptQuery.Proofs.Query.TermOrder
import ConceptQuery.Proofs.Query.Templates
