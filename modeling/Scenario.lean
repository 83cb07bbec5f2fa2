import Scenario.Binary64
import Scenario.Binary64.Shortest
import Scenario.Binary64.Layout
import Scenario.Text.Blank
import Scenario.Text.Printable
import Scenario.Text.Extending
import Scenario.Text.Quoted
import Scenario.Text.Plain
import Scenario.Text.Numeral
import Scenario.Json
import Scenario.Json.Literal
import Scenario.Json.Token
import Scenario.Json.Reader
import Scenario.Json.Printer
import Scenario.Log
import Scenario.Argument
import Scenario.Argument.Coercion
import Scenario.Opcode
import Scenario.Opcode.Signature
import Scenario.Binding
import Scenario.Operation
import Scenario.Command
import Scenario.Script
import Scenario.Speaker
import Scenario.Dialogue
import Scenario.Discovery
import Scenario.Dispatch.Error
import Scenario.Dispatch
import Scenario.Event
import Scenario.Summary
import Scenario.Run
import Scenario.Handler
import Scenario.Processor
import Scenario.NameTable
import Scenario.Lines
import Scenario.Assets
import Scenario.Stubs
import Scenario.Files
import Scenario.Batch
import Scenario.CommandLine
import Scenario.Tool
import Scenario.Main
import Scenario.Proofs.Routing
import Scenario.Proofs.Trace
import Scenario.Proofs.Sightings
import Scenario.Proofs.Accounting
import Scenario.Proofs.Composition
import Scenario.Proofs.Binding
import Scenario.Proofs.Fields
import Scenario.Proofs.Loading
import Scenario.Proofs.Turns
import Scenario.Proofs.FailFast
import Scenario.Proofs.Logging
import Scenario.Proofs.Quoting
import Scenario.Proofs.ByteOrder
import Scenario.Proofs.Catalogs
import Scenario.Proofs.Verdicts
import Scenario.Proofs.Strict
import Scenario.Proofs.Totals
import Scenario.Proofs.Watching
import Scenario.Proofs.Removal
import Scenario.Proofs.Relevance
import Scenario.Proofs.Reordering
import Scenario.Proofs.Rounding
import Scenario.Proofs.Truncation
import Scenario.Proofs.Spelling
import Scenario.Proofs.Numerals
import Scenario.Proofs.Rebinding
import Scenario.Proofs.Precedence
import Scenario.Proofs.Rows
import Scenario.Proofs.Labels
import Scenario.Proofs.Shortest
import Scenario.Proofs.Literals
import Scenario.Proofs.Written
import Scenario.Proofs.Reread
import Scenario.Proofs.Naming
import Scenario.Proofs.Showing
import Scenario.Proofs.Printing
import Scenario.Proofs.OneLine
import Scenario.Proofs.FirstUse
