import EventMapLint.Decimal.Scaled
import EventMapLint.Decimal.Shortest
import EventMapLint.Diagnostic
import EventMapLint.Encoding
import EventMapLint.EventMap
import EventMapLint.Grammar.Basic
import EventMapLint.Grammar.Binding
import EventMapLint.Grammar.Class
import EventMapLint.Grammar.Declaration
import EventMapLint.Grammar.Expression
import EventMapLint.Grammar.Function
import EventMapLint.Grammar.Markup
import EventMapLint.Grammar.Module
import EventMapLint.Grammar.Operand
import EventMapLint.Grammar.Statement
import EventMapLint.Grammar.Target
import EventMapLint.Grammar.Type
import EventMapLint.Json.Array
import EventMapLint.Json.Reader
import EventMapLint.Json.Value
import EventMapLint.Json.Writer
import EventMapLint.Lint
import EventMapLint.Names
import EventMapLint.Options
import EventMapLint.Parser
import EventMapLint.Proofs.Tree.Children
import EventMapLint.Proofs.Tree.Path
import EventMapLint.Proofs.Faults
import EventMapLint.Proofs.Handler
import EventMapLint.Proofs.Repair.Amend
import EventMapLint.Proofs.Repair.Tree
import EventMapLint.Proofs.Run
import EventMapLint.Proofs.Wording
import EventMapLint.Report
import EventMapLint.Rule
import EventMapLint.Setup
import EventMapLint.Source.Language
import EventMapLint.Source.Program
import EventMapLint.Source.Reading
import EventMapLint.Source.Scan
import EventMapLint.Source.Token
import EventMapLint.Span
import EventMapLint.Text.Bytes
import EventMapLint.Text.Hexadecimal
import EventMapLint.Text.Letter
import EventMapLint.Text.Position
import EventMapLint.Text.Quoted
import EventMapLint.Text.Visible
import EventMapLint.Tree.Calls
import EventMapLint.Tree.Node
import EventMapLint.Tree.Visit
import EventMapLint.Proofs.Tree.WithChildren
import EventMapLint.Proofs.Context
import EventMapLint.Proofs.Places
import EventMapLint.Proofs.SourceOrder
import EventMapLint.Proofs.Report
import EventMapLint.Proofs.EntryPoints
import EventMapLint.Proofs.Json.Entries
import EventMapLint.Proofs.Json.Schema
import EventMapLint.Proofs.Template
import EventMapLint.Proofs.Text.Lines
import EventMapLint.Proofs.Options
import EventMapLint.Proofs.Json.Array
import EventMapLint.Proofs.Json.Reading
import EventMapLint.Proofs.Json.Writing
import EventMapLint.Proofs.OptionsWritten
import EventMapLint.Proofs.LeastOffense
import EventMapLint.Proofs.Text.Scan
import EventMapLint.Proofs.Json.Rearranged
import EventMapLint.Proofs.Json.Unambiguous
import EventMapLint.Proofs.Encoding
import EventMapLint.Proofs.Setup
import EventMapLint.Proofs.Diagnostic
import EventMapLint.Proofs.Findings
import EventMapLint.Proofs.ErrorText
