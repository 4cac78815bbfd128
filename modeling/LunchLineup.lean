import LunchLineup.Lib.Dict
import LunchLineup.Lib.Checked
import LunchLineup.Lib.Interval
import LunchLineup.Lib.Run
import LunchLineup.Billing.Wallet
import LunchLineup.Billing.LedgerInvariant
import LunchLineup.Python.Clock
import LunchLineup.Worker.Payload
import LunchLineup.Jobs.Database
import LunchLineup.Jobs.Transactions
import LunchLineup.Jobs.Effects
import LunchLineup.Jobs.ExactlyOnce
import LunchLineup.Python.Reference
import LunchLineup.Engine.Breaks
import LunchLineup.Engine.Request
import LunchLineup.Lib.Coverage
import LunchLineup.Engine.Demand
import LunchLineup.Engine.Availability
import LunchLineup.Engine.Assignments
import LunchLineup.Lib.LinearModel
import LunchLineup.Engine.Solve
import LunchLineup.Engine.Outcome
import LunchLineup.Engine.CoverageSound
import LunchLineup.Engine.Booking
import LunchLineup.Engine.WeeklyCap
import LunchLineup.Engine.AvailabilitySound
import LunchLineup.Worker.Gate
import LunchLineup.Worker.GateSound
import LunchLineup.Engine.Service
import LunchLineup.Worker.Dispatch
import LunchLineup.Worker.Codec
import LunchLineup.Worker.DailyGate
import LunchLineup.Payroll.Tables
import LunchLineup.Payroll.Triggers
import LunchLineup.Payroll.Calendar
import LunchLineup.Payroll.TimeCards
import LunchLineup.Payroll.Periods
import LunchLineup.Payroll.Transactions
import LunchLineup.Payroll.LockInvariant
import LunchLineup.Payroll.PeriodLife
import LunchLineup.Payroll.Conservation
import LunchLineup.Payroll.EntryChecks
import LunchLineup.Payroll.Tiling
import LunchLineup.Payroll.ExportTables
import LunchLineup.Payroll.Exports
import LunchLineup.Payroll.ExportEvidence
import LunchLineup.Payroll.ExportWrites
import LunchLineup.Payroll.Reconciliation
import LunchLineup.Billing.CreditPurchase
import LunchLineup.Lib.Attempts
import LunchLineup.Billing.PurchaseWrites
import LunchLineup.Billing.PurchaseOutcome
import LunchLineup.Billing.PurchaseNumbers
import LunchLineup.Billing.PurchaseRuns
import LunchLineup.Billing.PurchaseLooks
import LunchLineup.Payroll.BreakEvidence
import LunchLineup.Payroll.ClockIn
import LunchLineup.Payroll.ClockInOnce
import LunchLineup.Imports.ImportJob
import LunchLineup.Imports.ImportSettlement
import LunchLineup.Webhooks.Delivery
import LunchLineup.Billing.RefundOnce
import LunchLineup.Webhooks.DeliverySettlement
import LunchLineup.Breaks.Board
import LunchLineup.Breaks.ShiftBreaks
import LunchLineup.Breaks.ShiftBreaksIdempotence
import LunchLineup.Breaks.Generation
import LunchLineup.Breaks.GenerationOnce
import LunchLineup.Scheduling.Plan
import LunchLineup.Scheduling.PlanSafety
import LunchLineup.Scheduling.ChangeSet
import LunchLineup.Scheduling.ExternalShifts
import LunchLineup.Scheduling.Execution
import LunchLineup.Scheduling.PlanApplied
import LunchLineup.Breaks.Placement
import LunchLineup.Engine.Envelope
import LunchLineup.Engine.Stagger
import LunchLineup.Engine.IsoRuns
import LunchLineup.Engine.Fragments
import LunchLineup.Usage.UsageEvent
import LunchLineup.Usage.UsageSenders
import LunchLineup.Usage.UsageFencing
import LunchLineup.Usage.UsageAttempts
import LunchLineup.Billing.PositiveSettlement
import LunchLineup.Engine.Precheck
import LunchLineup.Jobs.DraftSnapshot
import LunchLineup.Schedules.LocalAvailability
import LunchLineup.Jobs.CreditProvenance
import LunchLineup.Worker.SkillMatch
import LunchLineup.Lib.Base64
import LunchLineup.Lib.Json
import LunchLineup.Lib.Keyset
import LunchLineup.Pagination.Cursors
import LunchLineup.Pagination.Lists
import LunchLineup.Pagination.EveryRowOnce
import LunchLineup.Lib.Comparator
import LunchLineup.Payroll.LockedSnapshots
import LunchLineup.Lib.LocalClock
import LunchLineup.TimeZones.DateText
import LunchLineup.TimeZones.LocalMidnight
import LunchLineup.TimeZones.LocalDays
import LunchLineup.TimeZones.CalendarWeeks
import LunchLineup.TimeZones.WeeklyMinutes
import LunchLineup.Lib.Csv
import LunchLineup.Payroll.CsvText
import LunchLineup.Lib.SlidingWindow
import LunchLineup.Throttling.RedisThrottler
import LunchLineup.Throttling.ThrottledRuns
import LunchLineup.Idempotency.CanonicalJson
import LunchLineup.Idempotency.RequestIdentity
import LunchLineup.TimeZones.ShiftWindow
import LunchLineup.TimeZones.ShiftRoundTrip
import LunchLineup.Lib.Receipts
import LunchLineup.Scheduling.Headers
import LunchLineup.Scheduling.Mutations
import LunchLineup.Scheduling.MutationSteps
import LunchLineup.Lib.Revisions
import LunchLineup.Scheduling.MutationRuns
import LunchLineup.Scheduling.SafeBoards
import LunchLineup.Scheduling.ScheduleRequests
import LunchLineup.Lib.Spacing
import LunchLineup.Auth.EmailCodes
import LunchLineup.Auth.Accounts
import LunchLineup.Auth.Sessions
import LunchLineup.Auth.Credentials
import LunchLineup.Auth.SecondFactor
import LunchLineup.Auth.System
import LunchLineup.Auth.Transactions
import LunchLineup.Auth.TableSteps
import LunchLineup.Auth.SessionSteps
import LunchLineup.Auth.UserSteps
import LunchLineup.Auth.CallSteps
import LunchLineup.Auth.SessionRuns
import LunchLineup.Auth.SessionLimits
import LunchLineup.Auth.ResetRuns
import LunchLineup.Auth.ClaimSteps
import LunchLineup.Auth.MfaRuns
import LunchLineup.Auth.GuessLimits
import LunchLineup.Auth.AccountRuns
import LunchLineup.Auth.Lifecycle
