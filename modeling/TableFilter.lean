import TableFilter.Calendar.Date
import TableFilter.Calendar.Findings
import TableFilter.Calendar.Pattern
import TableFilter.Calendar.Text
import TableFilter.Column
import TableFilter.CommandLine.Arguments
import TableFilter.CommandLine.Run
import TableFilter.CommandLine.Session
import TableFilter.Comparison
import TableFilter.Config.Basic
import TableFilter.Config.Json5
import TableFilter.Config.Key
import TableFilter.Config.Setting
import TableFilter.Csv.Frame
import TableFilter.Csv.Record
import TableFilter.Decimal.Basic
import TableFilter.Decimal.Binary
import TableFilter.Decimal.Shortest
import TableFilter.Decimal.Text
import TableFilter.Error
import TableFilter.Filter.CheckFilter
import TableFilter.Filter.ChoiceFilter
import TableFilter.Filter.DateFilter
import TableFilter.Filter.Edit
import TableFilter.Filter.Form
import TableFilter.Filter.Input
import TableFilter.Filter.NumericFilter
import TableFilter.Filter.Operator
import TableFilter.Filter.Strategy
import TableFilter.Filter.TextFilter
import TableFilter.Filter.Widget
import TableFilter.FilterBar.Basic
import TableFilter.FilterBar.Factory
import TableFilter.FilterBar.Operation
import TableFilter.Folder
import TableFilter.Json.Basic
import TableFilter.Json.Text
import TableFilter.Main
import TableFilter.Memory
import TableFilter.Power
import TableFilter.Predicate.Compose
import TableFilter.Predicate.Error
import TableFilter.Predicate.Eval
import TableFilter.Predicate.Expr
import TableFilter.Predicate.Lexer
import TableFilter.Predicate.Like
import TableFilter.Predicate.Literal
import TableFilter.Predicate.Parser
import TableFilter.Predicate.Token
import TableFilter.Proofs.Calendar.Counting
import TableFilter.Proofs.Calendar.Order
import TableFilter.Proofs.Calendar.ReadBack
import TableFilter.Proofs.CommandLine.Applying
import TableFilter.Proofs.Decimal.ReadBack
import TableFilter.Proofs.Decimal.Value
import TableFilter.Proofs.Filter.Forgetting
import TableFilter.Proofs.Filter.Forms
import TableFilter.Proofs.Filter.Fragment
import TableFilter.Proofs.Filter.Listening
import TableFilter.Proofs.Filter.Losing
import TableFilter.Proofs.Filter.Meaning
import TableFilter.Proofs.Filter.Offering
import TableFilter.Proofs.Filter.OperandForms
import TableFilter.Proofs.Filter.Operands
import TableFilter.Proofs.Filter.Prefixes
import TableFilter.Proofs.Filter.Recognising
import TableFilter.Proofs.Filter.Restoring
import TableFilter.Proofs.Filter.Surviving
import TableFilter.Proofs.FilterBar.Acceptance
import TableFilter.Proofs.FilterBar.Arrangement
import TableFilter.Proofs.FilterBar.Bindings
import TableFilter.Proofs.FilterBar.Cache
import TableFilter.Proofs.FilterBar.Coherence
import TableFilter.Proofs.FilterBar.Columns
import TableFilter.Proofs.FilterBar.Composition
import TableFilter.Proofs.FilterBar.Edits
import TableFilter.Proofs.FilterBar.Forgetting
import TableFilter.Proofs.FilterBar.Handover
import TableFilter.Proofs.FilterBar.Narrowing
import TableFilter.Proofs.FilterBar.Notices
import TableFilter.Proofs.FilterBar.Origins
import TableFilter.Proofs.FilterBar.Places
import TableFilter.Proofs.FilterBar.Reapplying
import TableFilter.Proofs.FilterBar.Rebinding
import TableFilter.Proofs.FilterBar.Refusal
import TableFilter.Proofs.FilterBar.Remembering
import TableFilter.Proofs.FilterBar.Renewals
import TableFilter.Proofs.FilterBar.Reordering
import TableFilter.Proofs.FilterBar.Returning
import TableFilter.Proofs.FilterBar.Serving
import TableFilter.Proofs.FilterBar.Snapshots
import TableFilter.Proofs.FilterBar.Stillness
import TableFilter.Proofs.FilterBar.Telling
import TableFilter.Proofs.FilterBar.Updates
import TableFilter.Proofs.Predicate.CasePolicy
import TableFilter.Proofs.Predicate.Comparing
import TableFilter.Proofs.Predicate.Compose
import TableFilter.Proofs.Predicate.Glob
import TableFilter.Proofs.Predicate.Grammar
import TableFilter.Proofs.Predicate.Lexing
import TableFilter.Proofs.Predicate.Literals
import TableFilter.Proofs.Predicate.ParseTree
import TableFilter.Proofs.Predicate.Positions
import TableFilter.Proofs.Predicate.Reads
import TableFilter.Proofs.Predicate.SingleTokens
import TableFilter.Proofs.Predicate.Unambiguous
import TableFilter.Proofs.Predicate.Unknown
import TableFilter.Proofs.Text.Digits
import TableFilter.Proofs.Text.Folding
import TableFilter.Proofs.Text.Matching
import TableFilter.Proofs.Text.Trim
import TableFilter.Proofs.Value.Display
import TableFilter.Proofs.Value.Symmetry
import TableFilter.Proofs.View.Accept
import TableFilter.Proofs.View.Choices
import TableFilter.Proofs.View.Distinct
import TableFilter.Proofs.View.Lookups
import TableFilter.Proofs.View.Marks
import TableFilter.Proofs.View.Mirror
import TableFilter.Proofs.View.Rows
import TableFilter.Proofs.View.Temporal
import TableFilter.Proofs.View.Truthful
import TableFilter.Refresh
import TableFilter.Report
import TableFilter.Scan
import TableFilter.Settings
import TableFilter.Stored
import TableFilter.Text.Blank
import TableFilter.Text.CaseFold
import TableFilter.Text.Digits
import TableFilter.Text.Letters
import TableFilter.Text.Lowercase
import TableFilter.Text.Ranges
import TableFilter.Text.Regex
import TableFilter.Value.Basic
import TableFilter.Value.Order
import TableFilter.View.Basic
import TableFilter.View.Compile
import TableFilter.View.Datum
import TableFilter.View.Frame
import TableFilter.View.Memory
import TableFilter.Vocabulary
