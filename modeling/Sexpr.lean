import Sexpr.Dump
import Sexpr.Layout.Pretty
import Sexpr.Main
import Sexpr.Parser.Session
import Sexpr.Printer.Event
import Sexpr.Printer.OneLine
import Sexpr.Proofs.Parsing.Descent
import Sexpr.Source
import Sexpr.Value
import Sexpr.Proofs.Parsing.Consumption
import Sexpr.Proofs.Parsing.Derivation
import Sexpr.Proofs.Lexing.Rules
import Sexpr.Proofs.Parsing.Depth
import Sexpr.Proofs.Lexing.Pattern
import Sexpr.Proofs.Lexing.Identifier
import Sexpr.Proofs.Lexing.LongestMatch
import Sexpr.Proofs.Lexing.Boundary
import Sexpr.Proofs.Lexing.Spelling
import Sexpr.Proofs.Printing.OneLine
import Sexpr.Proofs.Printing.Layout
import Sexpr.Proofs.Printing.Pretty
import Sexpr.Proofs.Printing.RoundTrip
import Sexpr.Proofs.Lexing.Spacing
import Sexpr.Proofs.Lexing.Cover
import Sexpr.Proofs.Lexing.Unclosed
import Sexpr.Proofs.Printing.Paragraphs
import Sexpr.Proofs.Printing.TokenRow
import Sexpr.Proofs.CommandLine.Format
import Sexpr.Proofs.Lexing.Seam
import Sexpr.Proofs.Parsing.Reading
import Sexpr.Proofs.Parsing.Relocation
import Sexpr.Proofs.Value.ReadBack
import Sexpr.Proofs.Printing.Observation
import Sexpr.Proofs.Parsing.ErrorPlace
import Sexpr.Proofs.Parsing.Operation
import Sexpr.Proofs.Printing.Walks
import Sexpr.Proofs.CommandLine.Agreement
import Sexpr.Proofs.Printing.Standalone
import Sexpr.Proofs.Printing.Widening
import Sexpr.Proofs.Printing.LineWidth
import Sexpr.Proofs.Parsing.Lookahead
import Sexpr.Proofs.Parsing.Procedure
import Sexpr.Proofs.Value.Codeword
import Sexpr.Proofs.Value.EscapePattern
import Sexpr.Proofs.Value.Numeral
import Sexpr.Proofs.Value.Decoding
import Sexpr.Proofs.Printing.Failure
import Sexpr.Proofs.Printing.Dump
import Sexpr.Proofs.Printing.DerivationSize
import Sexpr.Proofs.Printing.Separation
import Sexpr.Proofs.Printing.ItemStack
import Sexpr.Proofs.Value.Shortest
import Sexpr.Proofs.Value.Double
import Sexpr.Proofs.Value.RealText
