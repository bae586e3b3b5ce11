import ArrivalRates.Json.Parser
import ArrivalRates.Json.Printer
import ArrivalRates.Config
import ArrivalRates.Event
import ArrivalRates.Tracker
import ArrivalRates.Registry
import ArrivalRates.Totals
import ArrivalRates.Service.Visit
import ArrivalRates.LoadGenerator.Run
import ArrivalRates.Proofs.Chronicle
import ArrivalRates.Proofs.Tally
import ArrivalRates.Proofs.Batch
import ArrivalRates.Proofs.Advance
import ArrivalRates.Proofs.Streaming
import ArrivalRates.Proofs.LocalDay
import ArrivalRates.Proofs.Decision
import ArrivalRates.Proofs.Reporting
import ArrivalRates.Proofs.ReportDates
import ArrivalRates.Proofs.Coverage
import ArrivalRates.Proofs.Calls
import ArrivalRates.Proofs.Conservation
import ArrivalRates.Proofs.FailedCalls
import ArrivalRates.Proofs.WellFormed
import ArrivalRates.Proofs.ScheduledDays
import ArrivalRates.Proofs.Routing
import ArrivalRates.Proofs.ServiceRuns
import ArrivalRates.Proofs.Reported
import ArrivalRates.Proofs.SideBySide
import ArrivalRates.Proofs.Confluence
import ArrivalRates.Proofs.Accounting
import ArrivalRates.Proofs.Acceptance
import ArrivalRates.Proofs.Gaps
import ArrivalRates.Proofs.Kinds
import ArrivalRates.Proofs.Activity
import ArrivalRates.Proofs.Granularity
import ArrivalRates.Proofs.Observation
import ArrivalRates.Proofs.Barrier
import ArrivalRates.Proofs.Cadence
import ArrivalRates.Proofs.Position
import ArrivalRates.Proofs.Written
import ArrivalRates.Proofs.FinalReport
import ArrivalRates.Proofs.Months
import ArrivalRates.Proofs.Notices
import ArrivalRates.Proofs.Reordering
import ArrivalRates.Proofs.Moments
import ArrivalRates.Proofs.Absorption
import ArrivalRates.Proofs.Requests
import ArrivalRates.Proofs.BrokenReports
import ArrivalRates.Proofs.UtcTime
import ArrivalRates.Proofs.FrequencyText
import ArrivalRates.Proofs.LineFields
import ArrivalRates.Proofs.ConstantStream
import ArrivalRates.Proofs.ClosingCheck
import ArrivalRates.Proofs.Sending
import ArrivalRates.Proofs.Partition
