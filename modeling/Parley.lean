import Parley.Decimal.Binary64
import Parley.Decimal.Notation
import Parley.Decimal.Shortest
import Parley.Dialog
import Parley.Directive
import Parley.Fault
import Parley.Handle
import Parley.Hooks
import Parley.Incoming
import Parley.Intake
import Parley.Json.Basic
import Parley.Json.Document
import Parley.Json.Numeral
import Parley.Json.Printer
import Parley.Json.Record
import Parley.Json.Shape
import Parley.Message
import Parley.Pattern.CharSet
import Parley.Pattern.Expr
import Parley.Pattern.Reader
import Parley.Position
import Parley.Progress
import Parley.Recorder
import Parley.Report
import Parley.Route
import Parley.Routine
import Parley.Script
import Parley.Settings
import Parley.Stage
import Parley.Table
import Parley.Telemetry
import Parley.Template
import Parley.Text.Blank
import Parley.Text.CaseFold
import Parley.Text.FoldTable
import Parley.Text.HiddenTable
import Parley.Text.Markup
import Parley.Text.Visible
import Parley.Text.WordChar
import Parley.Text.WordTable
import Parley.Toml.Reader
import Parley.Toml.Scalar
import Parley.Toml.Value
import Parley.Values
import Parley.Variants
import Parley.World
import Parley.Proofs.Act
import Parley.Proofs.Callbacks
import Parley.Proofs.Steps
import Parley.Proofs.Turns
import Parley.Proofs.Asking
import Parley.Proofs.Budget
import Parley.Proofs.Course
import Parley.Proofs.Visits
import Parley.Proofs.Ending
import Parley.Proofs.Bounds
import Parley.Proofs.Entry
import Parley.Proofs.Unspent
import Parley.Proofs.Attention
import Parley.Proofs.Credit
import Parley.Proofs.FailedTurn
import Parley.Proofs.Replies
import Parley.Proofs.Scripts
import Parley.Proofs.Validity
import Parley.Proofs.FailedBegin
import Parley.Proofs.HandOver
import Parley.Proofs.Retelling
import Parley.Proofs.Growth
import Parley.Proofs.Placeholders
import Parley.Proofs.Escaping
import Parley.Proofs.Faults
import Parley.Proofs.Persistence
import Parley.Proofs.Twins
import Parley.Proofs.EmptyReply
import Parley.Proofs.Wording
import Parley.Proofs.Resumption
import Parley.Proofs.Waiting
import Parley.Proofs.Repeating
import Parley.Proofs.Recital
import Parley.Proofs.Retrying
import Parley.Proofs.Deeds
import Parley.Proofs.Redirects
import Parley.Proofs.Jumps
import Parley.Proofs.Choice
import Parley.Proofs.Rendering
import Parley.Proofs.Mentions
import Parley.Proofs.Fairness
import Parley.Proofs.ReadBack
import Parley.Proofs.Tokens
