import ClassLint.Text.Location
import ClassLint.Selector.Segment
import ClassLint.Stylesheet.Parse
import ClassLint.Decimal.Shortest
import ClassLint.Text.Word
import ClassLint.Text.Digit
import ClassLint.Text.LetterCase
import ClassLint.Text.Quoted
import ClassLint.Json.Display
import ClassLint.Json.Printer
import ClassLint.Json.Reader
import ClassLint.Pattern.Matcher
import ClassLint.Pattern.Reader
import ClassLint.Naming.Classification
import ClassLint.Check.Rule
import ClassLint.Files.Tree
import ClassLint.Lint.Basic
import ClassLint.Lint.Event
import ClassLint.Command.Run
import ClassLint.Main
import ClassLint.Text.Identifier
import ClassLint.Pattern.CharSet
import ClassLint.Pattern.Token
import ClassLint.Pattern.Fault
import ClassLint.Pattern.Flags
import ClassLint.Pattern.Escape
import ClassLint.Pattern.Part
import ClassLint.Text.CharName
import ClassLint.Text.ControlSequence
import ClassLint.Proofs.Stylesheet.Outline
import ClassLint.Proofs.Lint.SourceOrder
import ClassLint.Proofs.Selector.Balance
import ClassLint.Proofs.Check.Stages
import ClassLint.Proofs.Stylesheet.Escapes
import ClassLint.Proofs.Lint.Composition
import ClassLint.Proofs.Stylesheet.Block
import ClassLint.Proofs.Lint.Independence
import ClassLint.Proofs.Text.Utf8
import ClassLint.Proofs.Json.LongNumbers
import ClassLint.Proofs.Config.Reading
import ClassLint.Proofs.Command.Settings
import ClassLint.Proofs.Lint.Accepted
import ClassLint.Proofs.Config.Reports
import ClassLint.Proofs.Command.ConfigFile
import ClassLint.Proofs.Files.Tree
import ClassLint.Proofs.Text.ControlSequence
import ClassLint.Proofs.Command.Shares
import ClassLint.Proofs.Selector.ClassNames
import ClassLint.Proofs.Selector.Opaque
import ClassLint.Proofs.Stylesheet.Commas
import ClassLint.Proofs.Lint.ByteOrderMark
import ClassLint.Proofs.Selector.Canonical
import ClassLint.Proofs.Stylesheet.EscapedBlanks
import ClassLint.Proofs.Check.Descendant
import ClassLint.Proofs.Stylesheet.InsertedComment
import ClassLint.Proofs.Check.Whitelist
import ClassLint.Proofs.Check.NameOrder
import ClassLint.Proofs.Config.Members
import ClassLint.Proofs.Command.Override
import ClassLint.Proofs.Pattern.Language
import ClassLint.Proofs.Naming.Shapes
import ClassLint.Proofs.Pattern.Written
import ClassLint.Proofs.Pattern.Parts
import ClassLint.Proofs.Pattern.Pieces
import ClassLint.Proofs.Pattern.Symbols
import ClassLint.Proofs.Pattern.Reading
import ClassLint.Proofs.Pattern.Rearranging
import ClassLint.Proofs.Pattern.Denotation
import ClassLint.Proofs.Naming.CustomFormat
import ClassLint.Proofs.Command.Loading
import ClassLint.Proofs.Config.KeyOrder
import ClassLint.Proofs.Text.Numerals
import ClassLint.Proofs.Check.Values
import ClassLint.Proofs.Lint.ReportLine
import ClassLint.Proofs.Json.Strings
import ClassLint.Proofs.Json.Numbers
import ClassLint.Proofs.Json.RoundTrip
import ClassLint.Proofs.Json.Ascii
import ClassLint.Proofs.Lint.Sizes
import ClassLint.Proofs.Command.JsonReport
