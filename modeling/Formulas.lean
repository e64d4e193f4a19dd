import Formulas.Aggregation
import Formulas.Builtin
import Formulas.Builtin.Registry
import Formulas.Catalog
import Formulas.Command
import Formulas.CommandLine
import Formulas.DateTime
import Formulas.DateTime.Iso
import Formulas.Environment
import Formulas.Expr
import Formulas.Expr.FreeNames
import Formulas.Expr.Printer
import Formulas.Expr.Tree
import Formulas.Expr.Typing
import Formulas.Folder
import Formulas.Json
import Formulas.Json.Printer
import Formulas.Json.Reader
import Formulas.Json.Token
import Formulas.Main
import Formulas.Number.Basic
import Formulas.Number.Decimal
import Formulas.Number.Layout
import Formulas.Number.Shortest
import Formulas.Operator
import Formulas.Parser
import Formulas.Parser.Access
import Formulas.Parser.Error
import Formulas.Parser.Level
import Formulas.Parser.Machine
import Formulas.Reference
import Formulas.Scan
import Formulas.Scanner
import Formulas.Text.Alphabetic
import Formulas.Text.Blank
import Formulas.Text.Case.Lower
import Formulas.Text.Case.Run
import Formulas.Text.Case.Upper
import Formulas.Text.CaseInsensitive
import Formulas.Text.Numeric
import Formulas.Text.Printable
import Formulas.Text.Ranges
import Formulas.Token
import Formulas.Token.Listing
import Formulas.UnitOfMeasure
import Formulas.ValueType
import Formulas.Proofs.DateTime.RoundTrip
import Formulas.Proofs.Environment.Growth
import Formulas.Proofs.Expr.Chains
import Formulas.Proofs.Expr.Equality
import Formulas.Proofs.Expr.Nodes
import Formulas.Proofs.Expr.Outline
import Formulas.Proofs.Expr.WellFormed
import Formulas.Proofs.Grammar
import Formulas.Proofs.Grammar.Completeness
import Formulas.Proofs.Grammar.Exactness
import Formulas.Proofs.Grammar.Nodes
import Formulas.Proofs.Grammar.Soundness
import Formulas.Proofs.Grammar.Truth
import Formulas.Proofs.InternalFaults
import Formulas.Proofs.Number.Rounding
import Formulas.Proofs.Number.Shortest
import Formulas.Proofs.Number.Text
import Formulas.Proofs.Parser.Dots
import Formulas.Proofs.Parser.WellFormed
import Formulas.Proofs.Printer.Derivation
import Formulas.Proofs.Printer.Losses
import Formulas.Proofs.Printer.RoundTrip
import Formulas.Proofs.Printer.Spelling
import Formulas.Proofs.Printer.Tokens
import Formulas.Proofs.Scan.Spelling
import Formulas.Proofs.Scan.Tokens
import Formulas.Proofs.Stacks
import Formulas.Proofs.Text.Runs
import Formulas.Proofs.Parser.Refinement
import Formulas.Proofs.Scan.Pieces
import Formulas.Proofs.Parser.Paths
import Formulas.Proofs.Parser.Composition
import Formulas.Proofs.Parser.MethodCalls
import Formulas.Proofs.Environment.Facts
import Formulas.Proofs.Environment.Runs
import Formulas.Proofs.Environment.Catalogs
import Formulas.Proofs.Environment.Retries
import Formulas.Proofs.Parser.Shape
import Formulas.Proofs.Parser.Draining
import Formulas.Proofs.Scan.Calls
import Formulas.Proofs.Scan.Blanks
import Formulas.Proofs.DateTime.Format
import Formulas.Proofs.DateTime.Calendar
import Formulas.Proofs.DateTime.Constructors
import Formulas.Proofs.Expr.FreeNames
import Formulas.Proofs.Parser.Balance
import Formulas.Proofs.Expr.Documents
import Formulas.Proofs.Scan.Written
