import Rulebook.Fault
import Rulebook.Number.Shortest
import Rulebook.Number.Exact
import Rulebook.Calendar.Moment
import Rulebook.Text.Word
import Rulebook.Text.Digit
import Rulebook.Text.Blank
import Rulebook.Text.Printable
import Rulebook.Text.Identifier
import Rulebook.Text.Case
import Rulebook.Text.Quoted
import Rulebook.Pattern.Search
import Rulebook.Value.Order
import Rulebook.Value.Membership
import Rulebook.Value.Text
import Rulebook.Json.Reader
import Rulebook.Json.Writer
import Rulebook.Predicate.Registry
import Rulebook.Rule.Compiler
import Rulebook.Rule.Evaluation
import Rulebook.Report.Failures
import Rulebook.Report.Data
import Rulebook.Message.Layout
import Rulebook.Message.Resolver
import Rulebook.Check.Format
import Rulebook.Main
import Rulebook.Proofs.Compiler.Derivation
import Rulebook.Proofs.Compiler.Freezing
import Rulebook.Proofs.Compiler.Image
import Rulebook.Proofs.Compiler.NormalForm
import Rulebook.Proofs.Compiler.Offences
import Rulebook.Proofs.Evaluation.Run
import Rulebook.Proofs.Evaluation.Judgement
import Rulebook.Proofs.Evaluation.Reach
import Rulebook.Proofs.Evaluation.Certificate
import Rulebook.Proofs.Report.Grouping
import Rulebook.Proofs.Report.Account
import Rulebook.Proofs.Report.Nesting
import Rulebook.Proofs.Predicate.Frozen
import Rulebook.Proofs.Message.Precedence
import Rulebook.Proofs.Message.Selection
import Rulebook.Proofs.Predicate.Faults
import Rulebook.Proofs.Evaluation.Faults
import Rulebook.Proofs.Logged
import Rulebook.Proofs.Report.Traversal
import Rulebook.Proofs.Schema.Verdict
import Rulebook.Proofs.Message.Slots
import Rulebook.Proofs.Message.Coverage
import Rulebook.Proofs.Report.PlainData
import Rulebook.Proofs.Check.Format
import Rulebook.Proofs.Report.Count
import Rulebook.Proofs.Schema.File
import Rulebook.Proofs.Check.Agreement
import Rulebook.Proofs.Evaluation.Equations
import Rulebook.Proofs.Schema.Rearranging
import Rulebook.Proofs.Schema.Locality
import Rulebook.Proofs.Report.Rendering
import Rulebook.Proofs.Command.Printing
import Rulebook.Proofs.OrderedMap
import Rulebook.Proofs.Message.Layout
import Rulebook.Proofs.Message.Findings
import Rulebook.Proofs.Workspace.Reading
import Rulebook.Proofs.Schema.Loading
import Rulebook.Proofs.Command.SetUp
import Rulebook.Proofs.Message.Layers
import Rulebook.Proofs.Check.Layers
import Rulebook.Proofs.Predicate.Histories
import Rulebook.Proofs.Compiler.Mentioned
import Rulebook.Proofs.Message.Interpolation
import Rulebook.Proofs.Message.Bounds
import Rulebook.Proofs.Message.Roles
import Rulebook.Proofs.Check.Lines
import Rulebook.Proofs.Evaluation.Calls
import Rulebook.Proofs.Evaluation.Vetting
import Rulebook.Proofs.Report.PlainForm
