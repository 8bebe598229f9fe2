import RustBlocker.Access
import RustBlocker.Acl
import RustBlocker.AdaptiveForwarding
import RustBlocker.Answers
import RustBlocker.Api
import RustBlocker.ArenaOffsets
import RustBlocker.ArenaOverflow
import RustBlocker.ArenaWaste
import RustBlocker.AutoRefresh
import RustBlocker.CertificateOrder
import RustBlocker.CertificateRuns
import RustBlocker.Certificates
import RustBlocker.Cloudflare
import RustBlocker.Convergence
import RustBlocker.CredentialWrites
import RustBlocker.Credentials
import RustBlocker.Database
import RustBlocker.DnsProbe
import RustBlocker.DomainLines
import RustBlocker.DomainSearch
import RustBlocker.Entries
import RustBlocker.Filtering
import RustBlocker.Forwarder
import RustBlocker.Forwarding
import RustBlocker.Genpass
import RustBlocker.Handler
import RustBlocker.HealthRaces
import RustBlocker.HotReload
import RustBlocker.InFlight
import RustBlocker.IpAddr
import RustBlocker.Latencies
import RustBlocker.Library.Base64
import RustBlocker.Library.BucketIndex
import RustBlocker.Library.Checked
import RustBlocker.Library.Cuts
import RustBlocker.Library.Histories
import RustBlocker.Library.Json
import RustBlocker.Library.PackedArena
import RustBlocker.Library.RelaxedCell
import RustBlocker.Library.SelfDelimiting
import RustBlocker.Library.SqlCalendar
import RustBlocker.Library.SqlGroups
import RustBlocker.Library.SqlLog
import RustBlocker.Library.SqlQuery
import RustBlocker.Library.SqlTable
import RustBlocker.Library.SqlTime
import RustBlocker.Library.SqlTop
import RustBlocker.Library.StateMachine
import RustBlocker.Library.Tasks
import RustBlocker.Library.Transaction
import RustBlocker.Library.Traversal
import RustBlocker.ListFiles
import RustBlocker.ListGrammar
import RustBlocker.ListLoading
import RustBlocker.ListParsers
import RustBlocker.ListRequests
import RustBlocker.ListWrites
import RustBlocker.Lists
import RustBlocker.ListsInvariant
import RustBlocker.ListsRefinement
import RustBlocker.LiveSettings
import RustBlocker.Lockout
import RustBlocker.LogWriter
import RustBlocker.LoginThrottle
import RustBlocker.ManifestChanges
import RustBlocker.ManualDomains
import RustBlocker.MirroredLists
import RustBlocker.Mirroring
import RustBlocker.NameLabels
import RustBlocker.Observers
import RustBlocker.Pruning
import RustBlocker.QueryStats
import RustBlocker.QueryTrend
import RustBlocker.Recording
import RustBlocker.RefreshOutcomes
import RustBlocker.Relaying
import RustBlocker.Reloading
import RustBlocker.Responding
import RustBlocker.Restarts
import RustBlocker.Rewrites
import RustBlocker.RoundTrip
import RustBlocker.RowIds
import RustBlocker.RuntimeLists
import RustBlocker.Sessions
import RustBlocker.SilentUpstreams
import RustBlocker.Snapshots
import RustBlocker.SocketAddr
import RustBlocker.SourceLists
import RustBlocker.SourceOwnership
import RustBlocker.SourceRefresh
import RustBlocker.Startup
import RustBlocker.StoredText
import RustBlocker.SyncApply
import RustBlocker.SyncFrame
import RustBlocker.SyncLoop
import RustBlocker.SyncManifest
import RustBlocker.SyncRun
import RustBlocker.Text
import RustBlocker.Transactions
import RustBlocker.Upstreams
