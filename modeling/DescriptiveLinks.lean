import DescriptiveLinks.Command.Arguments
import DescriptiveLinks.Command.Files
import DescriptiveLinks.Command.Run
import DescriptiveLinks.Event
import DescriptiveLinks.Event.Directive
import DescriptiveLinks.Event.Filter
import DescriptiveLinks.Event.Verbosity
import DescriptiveLinks.Json.Error
import DescriptiveLinks.Json.Number
import DescriptiveLinks.Json.Parser
import DescriptiveLinks.Json.Printer
import DescriptiveLinks.Json.StringLiteral
import DescriptiveLinks.Json.Value
import DescriptiveLinks.Main
import DescriptiveLinks.Phrase.Banned
import DescriptiveLinks.Phrase.Key
import DescriptiveLinks.Proofs.Command.ArgumentOrder
import DescriptiveLinks.Proofs.Command.Concatenation
import DescriptiveLinks.Proofs.Command.Endings
import DescriptiveLinks.Proofs.Command.JsonOutput
import DescriptiveLinks.Proofs.Command.PrettyOutput
import DescriptiveLinks.Proofs.Command.Runs
import DescriptiveLinks.Proofs.Command.Scanning
import DescriptiveLinks.Proofs.Command.Warnings
import DescriptiveLinks.Proofs.Json.Grammar
import DescriptiveLinks.Proofs.Json.Nesting
import DescriptiveLinks.Proofs.Json.Numbers
import DescriptiveLinks.Proofs.Json.Printing
import DescriptiveLinks.Proofs.Json.Reading
import DescriptiveLinks.Proofs.Json.Strings
import DescriptiveLinks.Proofs.Phrase.IgnoredCase
import DescriptiveLinks.Proofs.Phrase.LongestRuns
import DescriptiveLinks.Proofs.Phrase.NormalForm
import DescriptiveLinks.Proofs.Phrase.Separators
import DescriptiveLinks.Proofs.Phrase.Words
import DescriptiveLinks.Proofs.Rule.AcceptedOptions
import DescriptiveLinks.Proofs.Rule.Composition
import DescriptiveLinks.Proofs.Rule.DeadPhrases
import DescriptiveLinks.Proofs.Rule.Place
import DescriptiveLinks.Proofs.Rule.Reloading
import DescriptiveLinks.Proofs.Rule.Resolution
import DescriptiveLinks.Proofs.Text.Bytes
import DescriptiveLinks.Proofs.Text.Coordinates
import DescriptiveLinks.Proofs.Text.LinearScan
import DescriptiveLinks.Proofs.Text.Position
import DescriptiveLinks.Proofs.Tree.Accepted
import DescriptiveLinks.Proofs.Tree.Ancestors
import DescriptiveLinks.Proofs.Tree.Arena
import DescriptiveLinks.Proofs.Tree.Calls
import DescriptiveLinks.Proofs.Tree.Completion
import DescriptiveLinks.Proofs.Tree.Depth
import DescriptiveLinks.Proofs.Tree.Draft
import DescriptiveLinks.Proofs.Tree.Forest
import DescriptiveLinks.Proofs.Tree.Layout
import DescriptiveLinks.Proofs.Tree.LoadedSizes
import DescriptiveLinks.Proofs.Tree.LoadedTexts
import DescriptiveLinks.Proofs.Tree.Numbering
import DescriptiveLinks.Proofs.Tree.Produced
import DescriptiveLinks.Proofs.Tree.Query
import DescriptiveLinks.Proofs.Tree.Refusals
import DescriptiveLinks.Proofs.Tree.RoundTrip
import DescriptiveLinks.Proofs.Tree.Spans
import DescriptiveLinks.Proofs.Tree.Table
import DescriptiveLinks.Proofs.Tree.TokenValues
import DescriptiveLinks.Proofs.Unicode.CaseStretch
import DescriptiveLinks.Proofs.Unicode.Folding
import DescriptiveLinks.Rule.Basic
import DescriptiveLinks.Rule.Configuration
import DescriptiveLinks.Rule.Diagnostic
import DescriptiveLinks.Rule.Finding
import DescriptiveLinks.Rule.Options
import DescriptiveLinks.Text.Decimal
import DescriptiveLinks.Text.Digits
import DescriptiveLinks.Text.Offset
import DescriptiveLinks.Text.Pattern
import DescriptiveLinks.Text.Pattern.Escape
import DescriptiveLinks.Text.Pattern.Mode
import DescriptiveLinks.Text.Pattern.Set
import DescriptiveLinks.Text.Pieces
import DescriptiveLinks.Text.Position
import DescriptiveLinks.Text.Quoted
import DescriptiveLinks.Text.Span
import DescriptiveLinks.Tree.Basic
import DescriptiveLinks.Tree.Builder
import DescriptiveLinks.Tree.KindIndex
import DescriptiveLinks.Tree.Loader
import DescriptiveLinks.Tree.Token
import DescriptiveLinks.Unicode.Alphabetic
import DescriptiveLinks.Unicode.Alphanumeric
import DescriptiveLinks.Unicode.BaseCharacter
import DescriptiveLinks.Unicode.CaseFold
import DescriptiveLinks.Unicode.CaseMapping
import DescriptiveLinks.Unicode.CodeTable
import DescriptiveLinks.Unicode.Ignorable
import DescriptiveLinks.Unicode.UpperCase
import DescriptiveLinks.Unicode.WhiteSpace
import DescriptiveLinks.Unicode.WordCharacter
