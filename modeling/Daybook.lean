import Daybook.Main
import Daybook.Store.Step
import Daybook.Proofs.Calendar.Order
import Daybook.Proofs.Calendar.Succession
import Daybook.Proofs.Calendar.Search
import Daybook.Proofs.Calendar.Compact
import Daybook.Proofs.Calendar.MonthLength
import Daybook.Proofs.Text.Digits
import Daybook.Proofs.Text.Bytes
import Daybook.Proofs.Except
import Daybook.Proofs.Rule.WellFormed
import Daybook.Proofs.Occurrence.Dates
import Daybook.Proofs.Occurrence.Annual
import Daybook.Proofs.Occurrence.Interval
import Daybook.Proofs.Occurrence.Next
import Daybook.Proofs.Occurrence.Reanchor
import Daybook.Proofs.Occurrence.Existence
import Daybook.Proofs.Occurrence.Outcome
import Daybook.Proofs.Task.Completion
import Daybook.Proofs.Task.Schedule
import Daybook.Proofs.Task.Settled
import Daybook.Proofs.Store.Sound
import Daybook.Proofs.Workspace.Stores
import Daybook.Proofs.Planner.Perform
import Daybook.Proofs.Planner.Reachable
import Daybook.Proofs.Rule.Grammar
import Daybook.Proofs.Json.Strings
import Daybook.Proofs.Rule.Canonical
import Daybook.Proofs.Store.Numbered
import Daybook.Proofs.Store.Registry
import Daybook.Proofs.Store.History
import Daybook.Proofs.Planner.Effect
import Daybook.Proofs.Occurrence.Monthly
import Daybook.Proofs.Planner.Listing
import Daybook.Proofs.Json.Documents
import Daybook.Proofs.Planner.Report
import Daybook.Proofs.Arguments.Styles
import Daybook.Proofs.Planner.Presentation
import Daybook.Proofs.Calendar.Steps
import Daybook.Proofs.Occurrence.Steps
import Daybook.Proofs.Occurrence.Weekly
import Daybook.Proofs.Occurrence.Reference
import Daybook.Proofs.Occurrence.Resumed
import Daybook.Proofs.Store.Pattern
import Daybook.Proofs.Store.Dotted
import Daybook.Proofs.Store.Selection
import Daybook.Proofs.Calendar.Codec
import Daybook.Proofs.Store.Undated
import Daybook.Proofs.Task.Id
import Daybook.Proofs.Task.Written
import Daybook.Proofs.Calendar.Gregorian
import Daybook.Proofs.Rule.MonthDays
import Daybook.Proofs.Rule.Magnitude
import Daybook.Proofs.Planner.Repetition
import Daybook.Proofs.Calendar.Later
