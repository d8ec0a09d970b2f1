import DeclScribe.Attribute
import DeclScribe.Command.Directory
import DeclScribe.Command.Invocation
import DeclScribe.Command.Outcome
import DeclScribe.Constant.Basic
import DeclScribe.Constant.Decode
import DeclScribe.Constant.OfExpr
import DeclScribe.Constant.Target
import DeclScribe.Declaration.Basic
import DeclScribe.Declaration.Builder
import DeclScribe.Declaration.Printer
import DeclScribe.Fragment
import DeclScribe.Fragment.Expr
import DeclScribe.Fragment.Literal
import DeclScribe.Fragment.LiteralValue
import DeclScribe.Fragment.Name
import DeclScribe.Fragment.ParseError
import DeclScribe.Fragment.Parser
import DeclScribe.Json
import DeclScribe.Json.Reader
import DeclScribe.Keyword
import DeclScribe.Layout
import DeclScribe.Main
import DeclScribe.Manifest.Basic
import DeclScribe.Manifest.Diagnostic
import DeclScribe.Manifest.Document
import DeclScribe.Manifest.Lowering
import DeclScribe.Manifest.Parse
import DeclScribe.Manifest.Scope
import DeclScribe.Manifest.Span
import DeclScribe.Manifest.Symbols
import DeclScribe.Manifest.Validation
import DeclScribe.Number.Binary64
import DeclScribe.Number.FloatFormat
import DeclScribe.Number.IntRange
import DeclScribe.Number.Reading
import DeclScribe.Number.Shortest
import DeclScribe.Position
import DeclScribe.Proofs.Text.Classes
import DeclScribe.Proofs.Token.Numerals
import DeclScribe.Report
import DeclScribe.Symbol.Basic
import DeclScribe.Symbol.Json
import DeclScribe.Text.Alphabetic
import DeclScribe.Text.Classes
import DeclScribe.Text.Extender
import DeclScribe.Text.Format
import DeclScribe.Text.Quoted
import DeclScribe.Text.Unprintable
import DeclScribe.Token
import DeclScribe.Token.Lexer
import DeclScribe.Token.Numeral
import DeclScribe.Toml.Reader
import DeclScribe.Toml.Scalar
import DeclScribe.Toml.Text
import DeclScribe.Toml.Tree
import DeclScribe.Toml.Value
import DeclScribe.Proofs.Token.Lexemes
import DeclScribe.Proofs.Fragment.Steps
import DeclScribe.Proofs.Fragment.Sound
import DeclScribe.Proofs.Fragment.Complete
import DeclScribe.Proofs.Fragment.Printing
import DeclScribe.Proofs.Fragment.RoundTrip
import DeclScribe.Proofs.Fragment.Grammar
import DeclScribe.Proofs.Constant.Literals
import DeclScribe.Proofs.Manifest.Validation
import DeclScribe.Proofs.Manifest.Arguments
import DeclScribe.Proofs.Manifest.Lowering
import DeclScribe.Proofs.Manifest.Symbols
import DeclScribe.Proofs.Manifest.Agreement
import DeclScribe.Proofs.Manifest.Preservation
import DeclScribe.Proofs.Manifest.Containment
import DeclScribe.Proofs.Token.Positions
import DeclScribe.Proofs.Manifest.Spans
import DeclScribe.Proofs.Manifest.Diagnostics
import DeclScribe.Proofs.Constant.IntegerArguments
import DeclScribe.Proofs.Manifest.Enclosing
import DeclScribe.Proofs.Token.Spacing
import DeclScribe.Proofs.Fragment.Places
import DeclScribe.Proofs.Manifest.NamedArguments
import DeclScribe.Proofs.Manifest.Accessors
import DeclScribe.Proofs.Manifest.Identifiers
import DeclScribe.Proofs.Token.Fronts
import DeclScribe.Proofs.Fragment.Splicing
import DeclScribe.Proofs.Attribute.Routes
import DeclScribe.Proofs.Constant.IntegerLiterals
import DeclScribe.Proofs.Constant.SignFolding
import DeclScribe.Proofs.Constant.LongNegation
import DeclScribe.Proofs.Constant.LiteralElements
import DeclScribe.Proofs.Token.Faults
import DeclScribe.Proofs.Fragment.ErrorPlaces
import DeclScribe.Proofs.Manifest.MemberTypes
import DeclScribe.Proofs.Layout.Rows
import DeclScribe.Proofs.Token.WrittenNumbers
import DeclScribe.Proofs.Fragment.SharedNames
import DeclScribe.Proofs.Declaration.Slots
import DeclScribe.Proofs.Declaration.Runs
import DeclScribe.Proofs.Manifest.AttributeData
import DeclScribe.Proofs.Manifest.DeclarableNames
import DeclScribe.Proofs.Token.OpenLiterals
import DeclScribe.Proofs.Declaration.BlankLines
import DeclScribe.Proofs.Manifest.Places
import DeclScribe.Proofs.Manifest.Searches
