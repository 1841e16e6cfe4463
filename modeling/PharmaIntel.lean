import PharmaIntel.Atomicity
import PharmaIntel.Attempts
import PharmaIntel.AuditEvidence
import PharmaIntel.AuditGuards
import PharmaIntel.AuditHistory
import PharmaIntel.Base.Lists
import PharmaIntel.Base.Orders
import PharmaIntel.Base.Dict
import PharmaIntel.Base.Exclusion
import PharmaIntel.Base.Gregorian
import PharmaIntel.Base.Guarded
import PharmaIntel.Base.IsoWeek
import PharmaIntel.Base.Keyed
import PharmaIntel.Base.Run
import PharmaIntel.Base.Program
import PharmaIntel.Base.Utf8
import PharmaIntel.ByteOrderMark
import PharmaIntel.CalendarDate
import PharmaIntel.CalendarTrigger
import PharmaIntel.ClaimOrder
import PharmaIntel.Codecs
import PharmaIntel.Coherence
import PharmaIntel.Collector
import PharmaIntel.ColumnOrder
import PharmaIntel.Constraints
import PharmaIntel.ContractImage
import PharmaIntel.Contracts
import PharmaIntel.Csv
import PharmaIntel.CsvWriter
import PharmaIntel.DatedAssignments
import PharmaIntel.DecimalText
import PharmaIntel.Enqueueing
import PharmaIntel.Fencing
import PharmaIntel.Hierarchy
import PharmaIntel.Idempotence
import PharmaIntel.Inspection
import PharmaIntel.Intake
import PharmaIntel.IssueCap
import PharmaIntel.IssueTexts
import PharmaIntel.Linking
import PharmaIntel.LockSession
import PharmaIntel.LockTurns
import PharmaIntel.Models
import PharmaIntel.Overlap
import PharmaIntel.ParserOutcome
import PharmaIntel.PopulateCalendar
import PharmaIntel.Programs
import PharmaIntel.Publication
import PharmaIntel.PublicationSteps
import PharmaIntel.PyText
import PharmaIntel.Queue
import PharmaIntel.QueueInvariant
import PharmaIntel.QueueRules
import PharmaIntel.Recordable
import PharmaIntel.Records
import PharmaIntel.Requeue
import PharmaIntel.RetryDelay
import PharmaIntel.RowNumbers
import PharmaIntel.RowRules
import PharmaIntel.RowStream
import PharmaIntel.SerialPublication
import PharmaIntel.SetBased
import PharmaIntel.SourceLock
import PharmaIntel.StagedFile
import PharmaIntel.StagedRowAudit
import PharmaIntel.Staging
import PharmaIntel.Storable
import PharmaIntel.Storage
import PharmaIntel.StoredVersions
import PharmaIntel.System
import PharmaIntel.Tables
import PharmaIntel.Transitions
import PharmaIntel.Validation
import PharmaIntel.WholeFile
import PharmaIntel.WorkerCommand
import PharmaIntel.WorkerExits
import PharmaIntel.Base.Beside
import PharmaIntel.FileRecords
import PharmaIntel.FileCustody
import PharmaIntel.Reconciliation
import PharmaIntel.KeepAlive
