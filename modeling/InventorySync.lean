import InventorySync.Foundations.TransitionSystem
import InventorySync.Foundations.ThreadPool
import InventorySync.Foundations.SequentialPool
import InventorySync.Foundations.InsertionDict
import InventorySync.Foundations.Recency
import InventorySync.Python.Exceptions
import InventorySync.Python.Values
import InventorySync.Python.Logging
import InventorySync.Pandas.DataFrame
import InventorySync.Foundations.Except
import InventorySync.Ingest.Validation
import InventorySync.Ingest.Dedupe
import InventorySync.Ingest.LoadRecords
import InventorySync.Ingest.SourceAgnostic
import InventorySync.Ingest.ChunkBoundaries
import InventorySync.Ingest.ColumnAlignment
import InventorySync.Ingest.LazyValidation
import InventorySync.Ingest.Csv
import InventorySync.Ingest.Chunksize
import InventorySync.Settings.Sources
import InventorySync.Settings.Precedence
import InventorySync.Foundations.PercentEncoding
import InventorySync.Transport.EntityUrl
import InventorySync.Transport.ODataClient
import InventorySync.Transport.Retry
import InventorySync.Sync.CircuitBreaker
import InventorySync.Sync.UpsertOne
import InventorySync.Sync.DataverseRunner
import InventorySync.Sync.Preflight
import InventorySync.Sync.ColumnNames
import InventorySync.Sync.Feed
import InventorySync.Sync.SyncRecords
import InventorySync.Sync.Dispatch
import InventorySync.Sync.History
import InventorySync.Sync.BreakerTrace
import InventorySync.Sync.Traffic
import InventorySync.Sync.Sequential
import InventorySync.Sync.TransportFailures
import InventorySync.Sync.BadRecords
import InventorySync.Sync.Revocation
import InventorySync.Sync.WriteKey
import InventorySync.Sync.Run
import InventorySync.Sync.BeforeWrite
import InventorySync.Foundations.PatchStore
import InventorySync.Transport.Destination
import InventorySync.Sync.RunEffect
import InventorySync.Sync.Rerun
import InventorySync.Sync.Replies
import InventorySync.Sync.ExitCode
import InventorySync.Foundations.SharedWorld
import InventorySync.Sync.Overlap
import InventorySync.Sync.ScheduleIndependence
import InventorySync.Sync.MockSync
import InventorySync.Foundations.Resending
import InventorySync.Transport.Wire
import InventorySync.Sync.Resends
import InventorySync.Sync.DeadDestination
import InventorySync.Sync.CsvSync
import InventorySync.Foundations.Journal
import InventorySync.Sync.LogLines
import InventorySync.Foundations.FormEncoding
import InventorySync.Transport.Queries
import InventorySync.Transport.Service
import InventorySync.Transport.Calls
import InventorySync.Foundations.Replay
import InventorySync.Transport.UnreliableCalls
import InventorySync.Foundations.Streaks
import InventorySync.Sync.BreakerHistory
import InventorySync.Foundations.RefreshCell
import InventorySync.Transport.TokenRefresh
import InventorySync.Transport.SingleFlight
import InventorySync.Sync.FailureReport
import InventorySync.Foundations.Cut
import InventorySync.Foundations.Hexadecimal
import InventorySync.Python.Text
import InventorySync.Python.UrlParse
import InventorySync.Python.Uuid
import InventorySync.Settings.DataverseSettings
import InventorySync.Settings.VaultSecrets
import InventorySync.Settings.DataverseUrl
import InventorySync.Settings.Guid
import InventorySync.Foundations.JsonTokens
import InventorySync.Foundations.Json
import InventorySync.Logs.JsonFormatter
import InventorySync.Logs.Envelope
import InventorySync.Logs.Reading
import InventorySync.Sync.RunLog
import InventorySync.Settings.Connection
import InventorySync.Transport.DataverseClient
import InventorySync.Sync.RowRecord
import InventorySync.Sync.ReadBack
import InventorySync.Sync.Confinement
import InventorySync.Sync.Parts
