import Fieldwise.Json.Config
import Fieldwise.Json.Record
import Fieldwise.Json.Rules
import Fieldwise.Validator
import Fieldwise.Yaml.Rules
import Fieldwise.Proofs.Table
import Fieldwise.Proofs.Report
import Fieldwise.Proofs.Rule.Anchor
import Fieldwise.Proofs.Validation.Findings
import Fieldwise.Proofs.Decimal.Numeral
import Fieldwise.Proofs.DateFormat.RoundTrip
import Fieldwise.Proofs.Rule.Grammar
import Fieldwise.Proofs.Rule.Canonical
import Fieldwise.Proofs.DateFormat.TypedDate
import Fieldwise.Proofs.Calendar.Date
import Fieldwise.Proofs.Calendar.DayNumber
import Fieldwise.Proofs.Calendar.Shift
import Fieldwise.Proofs.Evaluation.DateRule
import Fieldwise.Proofs.Evaluation.Monotone
import Fieldwise.Proofs.Evaluation.DaysFromNow
import Fieldwise.Proofs.Rule.Fault
import Fieldwise.Proofs.Validation.Clock
import Fieldwise.Proofs.Validation.Errors
import Fieldwise.Proofs.Evaluation.Independence
import Fieldwise.Proofs.Validation.Independence
import Fieldwise.Proofs.Validation.SingleRule
import Fieldwise.Proofs.Evaluation.Precision
import Fieldwise.Proofs.Calendar.Correspondence
import Fieldwise.Proofs.Evaluation.ReferenceYear
import Fieldwise.Proofs.Evaluation.Respelling
import Fieldwise.Proofs.Evaluation.Lexical
import Fieldwise.Proofs.Validation.Composition
import Fieldwise.Proofs.DateFormat.Tokenization
import Fieldwise.Proofs.Calendar.Arithmetic
import Fieldwise.Proofs.Text.Utf8
import Fieldwise.Proofs.Json.Record
import Fieldwise.Proofs.Validation.Log
import Fieldwise.Proofs.Calendar.Period
import Fieldwise.Proofs.DateFormat.Mismatch
import Fieldwise.Proofs.Rule.AnchorYear
import Fieldwise.Proofs.Validation.Target
import Fieldwise.Proofs.Text.Run
import Fieldwise.Proofs.Message.Template
import Fieldwise.Proofs.Message.Label
import Fieldwise.Proofs.Message.Naming
import Fieldwise.Proofs.Evaluation.BlankText
import Fieldwise.Proofs.Text.EditDistance
import Fieldwise.Proofs.Rule.Suggestion
import Fieldwise.Proofs.Validation.FailureCount
import Fieldwise.Proofs.Decimal.Shortest
import Fieldwise.Proofs.Evaluation.WholeFloat
import Fieldwise.Proofs.Calendar.ForthAndBack
import Fieldwise.Proofs.Text.Case
import Fieldwise.Proofs.Config
import Fieldwise.Proofs.Json.Quoted
import Fieldwise.Proofs.Json.Token
import Fieldwise.Proofs.Json.RoundTrip
import Fieldwise.Proofs.Text.EditScript
import Fieldwise.Proofs.Text.TwoRows
