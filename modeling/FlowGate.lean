import FlowGate.Text.Blank
import FlowGate.Text.Card
import FlowGate.Text.Case
import FlowGate.Text.Composed
import FlowGate.Text.Digit
import FlowGate.Text.Mail
import FlowGate.Text.Printable
import FlowGate.Text.Quoted
import FlowGate.Text.Search
import FlowGate.Text.Url
import FlowGate.Text.Word
import FlowGate.Number.Arithmetic
import FlowGate.Number.Decimal
import FlowGate.Number.Double
import FlowGate.Number.Money
import FlowGate.Number.Numeral
import FlowGate.Calendar.Date
import FlowGate.Calendar.Iso
import FlowGate.Calendar.Moment
import FlowGate.Calendar.Span
import FlowGate.Value.Basic
import FlowGate.Value.Coercion
import FlowGate.Value.Spelled
import FlowGate.Json.Document
import FlowGate.Json.Printer
import FlowGate.Json.Reader
import FlowGate.Fault
import FlowGate.Value.Written
import FlowGate.Path
import FlowGate.Context
import FlowGate.Pattern.Error
import FlowGate.Pattern.Letter
import FlowGate.Pattern.Matcher
import FlowGate.Pattern.Reader
import FlowGate.Pattern.Syntax
import FlowGate.Operator.Basic
import FlowGate.Operator.Comparison
import FlowGate.Operator.Similarity
import FlowGate.Registry
import FlowGate.Builtin.Function
import FlowGate.Builtin.Transform
import FlowGate.Builtin.Validator
import FlowGate.Filter.Basic
import FlowGate.Filter.Evaluation
import FlowGate.Filter.Result
import FlowGate.Filter.Rules
import FlowGate.Filter.Transformation
import FlowGate.Condition.Basic
import FlowGate.Condition.Evaluation
import FlowGate.Condition.Lookup
import FlowGate.Condition.Result
import FlowGate.Cache
import FlowGate.Schema.Action
import FlowGate.Schema.Condition
import FlowGate.Schema.Draft
import FlowGate.Schema.Filter
import FlowGate.Schema.Issue
import FlowGate.Schema.Reader
import FlowGate.Settings
import FlowGate.Action.Basic
import FlowGate.Action.Check
import FlowGate.Action.Finding
import FlowGate.Audit
import FlowGate.Decision
import FlowGate.Gate
import FlowGate.Deadline
import FlowGate.Session
import FlowGate.Builder.Action
import FlowGate.Builder.Basic
import FlowGate.Builder.Condition
import FlowGate.Builder.Filter
import FlowGate.Catalog.Operators
import FlowGate.Catalog.Templates
import FlowGate.Proofs.Cache
import FlowGate.Proofs.Cache.Recency
import FlowGate.Proofs.Engine
import FlowGate.Proofs.Entries
import FlowGate.Proofs.List
import FlowGate.Proofs.Number.Interval
import FlowGate.Proofs.Number.Shortest
import FlowGate.Proofs.Number.Text
import FlowGate.Proofs.Number.Whole
import FlowGate.Proofs.Number.Rounding
import FlowGate.Proofs.Number.Amount
import FlowGate.Proofs.Number.Numeral
import FlowGate.Proofs.Text.Quoted
import FlowGate.Proofs.Json.Scalar
import FlowGate.Proofs.Json.Written
import FlowGate.Proofs.Json.Scan
import FlowGate.Proofs.Json.Plain
import FlowGate.Proofs.Json.Reordered
import FlowGate.Proofs.Json.Times
import FlowGate.Proofs.Value.Alike
import FlowGate.Proofs.Value.Number
import FlowGate.Proofs.Operator.Equality
import FlowGate.Proofs.Operator.Membership
import FlowGate.Proofs.Operator.Coercion
import FlowGate.Proofs.Operator.Ordering
import FlowGate.Proofs.Context
import FlowGate.Proofs.Schema.Parsed
import FlowGate.Proofs.Schema.Validity
import FlowGate.Proofs.Condition.Nodes
import FlowGate.Proofs.Schema.Placement
import FlowGate.Proofs.Schema.Restored
import FlowGate.Proofs.Schema.RoundTrip
import FlowGate.Proofs.Schema.FreeForm
import FlowGate.Proofs.Filter.Priority
import FlowGate.Proofs.Filter.Meaning
import FlowGate.Proofs.Filter.Trace
import FlowGate.Proofs.Filter.Evaluation
import FlowGate.Proofs.Filter.Rearrangement
import FlowGate.Proofs.Filter.Calls
import FlowGate.Proofs.Filter.Failure
import FlowGate.Proofs.Filter.Accounting
import FlowGate.Proofs.Condition.Outcome
import FlowGate.Proofs.Condition.Meaning
import FlowGate.Proofs.Condition.Evaluation
import FlowGate.Proofs.Condition.Leaves
import FlowGate.Proofs.Condition.Stalling
import FlowGate.Proofs.Condition.Unchecked
import FlowGate.Proofs.Condition.Errors
import FlowGate.Proofs.Condition.Key
import FlowGate.Proofs.Condition.LookUp
import FlowGate.Proofs.Action.Check
import FlowGate.Proofs.Filter.Check
import FlowGate.Proofs.Condition.Check
import FlowGate.Proofs.Condition.Visited
import FlowGate.Proofs.Condition.Hanging
import FlowGate.Proofs.Action.Rules
import FlowGate.Proofs.Action.Formed
import FlowGate.Proofs.Action.Ready
import FlowGate.Proofs.Gate.Running
import FlowGate.Proofs.Gate.Table
import FlowGate.Proofs.Gate.Stopping
import FlowGate.Proofs.Gate.Accounting
import FlowGate.Proofs.Gate.Provenance
import FlowGate.Proofs.Gate.Permission
import FlowGate.Proofs.Gate.Caching
import FlowGate.Proofs.Gate.Hanging
import FlowGate.Proofs.Gate.Recording
import FlowGate.Proofs.Deadline.Answering
import FlowGate.Proofs.Deadline.Recording
import FlowGate.Proofs.Session.History
import FlowGate.Proofs.Session.Sharing
import FlowGate.Proofs.Filter.Isolation
import FlowGate.Proofs.Condition.Comparing
import FlowGate.Proofs.Filter.Documents
import FlowGate.Proofs.Condition.Documents
import FlowGate.Proofs.Action.Documents
import FlowGate.Proofs.Gate.Documents
import FlowGate.Proofs.Deadline.Documents
import FlowGate.Proofs.Similarity.Edits
import FlowGate.Proofs.Similarity.Share
import FlowGate.Proofs.Condition.Laws
import FlowGate.Proofs.Pattern.Language
import FlowGate.Proofs.Pattern.Mail
import FlowGate.Proofs.Condition.Mail
import FlowGate.Proofs.Schema.Respelled
import FlowGate.Proofs.Calendar.Days
import FlowGate.Proofs.Calendar.Instants
import FlowGate.Proofs.Calendar.Written
import FlowGate.Proofs.Value.Moment
import FlowGate.Proofs.Operator.Dates
import FlowGate.Proofs.Condition.Range
import FlowGate.Proofs.Operator.Clock
import FlowGate.Proofs.Operator.Week
import FlowGate.Proofs.Path
import FlowGate.Proofs.Context.Fields
import FlowGate.Proofs.Context.Placeholders
import FlowGate.Proofs.Operator.Paths
import FlowGate.Proofs.Operator.Texts
import FlowGate.Proofs.Text.CodeSet
import FlowGate.Proofs.Text.Case
import FlowGate.Proofs.Text.Composed.Entries
import FlowGate.Proofs.Text.Composed.Marks
import FlowGate.Proofs.Text.Composed.Joined
import FlowGate.Proofs.Text.Composed.Texts
import FlowGate.Proofs.Text.Composed.Blanks
import FlowGate.Proofs.Text.Composed.Pairs
import FlowGate.Proofs.Text.Composed.Lowered
import FlowGate.Proofs.Filter.Built
import FlowGate.Proofs.Filter.Sized
import FlowGate.Proofs.Filter.Lengths
import FlowGate.Proofs.Filter.Transformation
import FlowGate.Proofs.Filter.Domains
import FlowGate.Proofs.Text.Card
import FlowGate.Proofs.Audit
import FlowGate.Proofs.Gate.Rescuing
