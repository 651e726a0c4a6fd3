import BackgroundWork.Background.Budget
import BackgroundWork.Background.SystemHost
import BackgroundWork.Clock
import BackgroundWork.Compression.Config
import BackgroundWork.Compression.Coordinator
import BackgroundWork.Compression.Documents
import BackgroundWork.Compression.Handle
import BackgroundWork.Compression.Priority
import BackgroundWork.Compression.Publisher
import BackgroundWork.Compression.Push
import BackgroundWork.Compression.Request
import BackgroundWork.Compression.Snapshot
import BackgroundWork.Compression.Status
import BackgroundWork.Compression.StatusCache
import BackgroundWork.Compression.Subject
import BackgroundWork.Compression.Summary
import BackgroundWork.Compression.Timer
import BackgroundWork.Compression.Worker
import BackgroundWork.DocumentId
import BackgroundWork.Engine.Bridge
import BackgroundWork.Engine.Call
import BackgroundWork.Engine.Client
import BackgroundWork.Engine.Native
import BackgroundWork.Engine.Reply
import BackgroundWork.Engine.Status
import BackgroundWork.Export.AtEngine
import BackgroundWork.Export.Coordinator
import BackgroundWork.Export.Domain
import BackgroundWork.Export.Format
import BackgroundWork.Export.Job
import BackgroundWork.Export.Outcome
import BackgroundWork.Export.Path
import BackgroundWork.Export.Process
import BackgroundWork.Export.Request
import BackgroundWork.Export.Selection
import BackgroundWork.Json.Codec
import BackgroundWork.Json.Fault
import BackgroundWork.Json.Reader
import BackgroundWork.Json.Record
import BackgroundWork.Json.Scalar
import BackgroundWork.Json.Value
import BackgroundWork.Numeric.Binary
import BackgroundWork.Numeric.Shortest
import BackgroundWork.Program
import BackgroundWork.ServiceError
import BackgroundWork.Settings
import BackgroundWork.Settings.EnvFile
import BackgroundWork.Simulation.Device
import BackgroundWork.Simulation.Disk
import BackgroundWork.Simulation.Exporting
import BackgroundWork.Simulation.Host
import BackgroundWork.Simulation.Probing
import BackgroundWork.Simulation.ScriptedEngine
import BackgroundWork.Simulation.Session
import BackgroundWork.Simulation.Symbols
import BackgroundWork.Simulation.SystemTasks
import BackgroundWork.Simulation.Windows
import BackgroundWork.Simulation.World
import BackgroundWork.TaskFailure
import BackgroundWork.Telemetry.DeviceState
import BackgroundWork.Telemetry.Probe
import BackgroundWork.Text.Blank
import BackgroundWork.Text.Letters
import BackgroundWork.Text.Quoted
import BackgroundWork.Text.Ranges
import BackgroundWork.Text.Shown
import BackgroundWork.Text.Terminated
import BackgroundWork.Text.Utf8
import BackgroundWork.Timestamp
import BackgroundWork.Uuid
import BackgroundWork.Validation
import BackgroundWork.Proofs.ActiveResources
import BackgroundWork.Proofs.BudgetNotices
import BackgroundWork.Proofs.ClientRuns
import BackgroundWork.Proofs.CoordinatorRun
import BackgroundWork.Proofs.CoordinatorSteps
import BackgroundWork.Proofs.EngineCalls
import BackgroundWork.Proofs.ExpiryIsolation
import BackgroundWork.Proofs.ExportJourney
import BackgroundWork.Proofs.ExportRun
import BackgroundWork.Proofs.ExportTraffic
import BackgroundWork.Proofs.LifecyclePhase
import BackgroundWork.Proofs.ProgramRuns
import BackgroundWork.Proofs.Publishing
import BackgroundWork.Proofs.SettingsOverrides
import BackgroundWork.Proofs.Utf8Reading
import BackgroundWork.Proofs.WindowLedger
import BackgroundWork.Proofs.WindowSteps
import BackgroundWork.Proofs.WorkerHistory
import BackgroundWork.Proofs.WorkerSteps
import BackgroundWork.Proofs.ReplyClassification
import BackgroundWork.Proofs.StatusPropagation
import BackgroundWork.Proofs.DocumentGate
import BackgroundWork.Proofs.ExportCompletion
import BackgroundWork.Proofs.BufferCustody
import BackgroundWork.Proofs.PrintedJson
import BackgroundWork.Proofs.RequestEncoding
import BackgroundWork.Proofs.TurnItems
import BackgroundWork.Proofs.TurnLedger
import BackgroundWork.Proofs.ClientOrder
import BackgroundWork.Proofs.Shutdown
import BackgroundWork.Proofs.SnapshotReads
import BackgroundWork.Proofs.CodecReading
import BackgroundWork.Proofs.RecordReading
import BackgroundWork.Proofs.TimestampReading
import BackgroundWork.Proofs.UuidReading
import BackgroundWork.Proofs.ReportReading
import BackgroundWork.Proofs.ExportTracking
import BackgroundWork.Proofs.ExportPhase
import BackgroundWork.Proofs.TelemetrySchedule
import BackgroundWork.Proofs.ExpiryContexts
import BackgroundWork.Proofs.DocumentCalls
import BackgroundWork.Proofs.QueueResolution
import BackgroundWork.Proofs.CacheReports
import BackgroundWork.Proofs.CompressionGates
import BackgroundWork.Proofs.ReportIntake
import BackgroundWork.Proofs.StringReading
import BackgroundWork.Proofs.NameReading
import BackgroundWork.Proofs.ValueReading
import BackgroundWork.Proofs.TypedReading
import BackgroundWork.Proofs.EnvelopeReading
import BackgroundWork.Proofs.FailureMessages
import BackgroundWork.Proofs.RefusedCalls
import BackgroundWork.Proofs.SettingsGrammar
import BackgroundWork.Proofs.WorkerStart
import BackgroundWork.Proofs.NumberReading
import BackgroundWork.Proofs.FloatReading
import BackgroundWork.Proofs.ShortestDecimal
import BackgroundWork.Proofs.NumberWriting
import BackgroundWork.Proofs.PushReading
import BackgroundWork.Proofs.DeviceReadings
import BackgroundWork.Proofs.JsonGrammar
import BackgroundWork.Proofs.LocalReading
import BackgroundWork.Proofs.MemberPlaces
import BackgroundWork.Proofs.MemberSpelling
import BackgroundWork.Proofs.FieldChecks
import BackgroundWork.Proofs.RequestSize
import BackgroundWork.Proofs.ExportPaths
import BackgroundWork.Proofs.TokenSecrecy
