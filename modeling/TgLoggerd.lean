import TgLoggerd.KeyedTable
import TgLoggerd.SerialRun
import TgLoggerd.Projection
import TgLoggerd.Simulation
import TgLoggerd.RoundRobin
import TgLoggerd.Threads
import TgLoggerd.Requests
import TgLoggerd.Streaks
import TgLoggerd.Journal
import TgLoggerd.Recording
import TgLoggerd.HexCodec
import TgLoggerd.Message
import TgLoggerd.MessageStore
import TgLoggerd.MessageRun
import TgLoggerd.MessageDeletion
import TgLoggerd.MessageEdits
import TgLoggerd.MessageLog
import TgLoggerd.Usernames
import TgLoggerd.UserStore
import TgLoggerd.GroupStore
import TgLoggerd.UsernameOwnership
import TgLoggerd.UsernameReplay
import TgLoggerd.EntityReemission
import TgLoggerd.TdApi
import TgLoggerd.TdMapping
import TgLoggerd.AttributeHistory
import TgLoggerd.AdminStore
import TgLoggerd.AdminSync
import TgLoggerd.Wrapper
import TgLoggerd.Reactions
import TgLoggerd.QueryNumbers
import TgLoggerd.GroupEvents
import TgLoggerd.GroupAssembly
import TgLoggerd.GroupConvergence
import TgLoggerd.GroupIsolation
import TgLoggerd.GroupDescriptions
import TgLoggerd.AdminTracking
import TgLoggerd.EntityTracking
import TgLoggerd.EntityOrder
import TgLoggerd.Downloads
import TgLoggerd.HandoverOrder
import TgLoggerd.Logger
import TgLoggerd.DeletionCauses
import TgLoggerd.ReplyLinks
import TgLoggerd.ReplyRows
import TgLoggerd.ReplyOrder
import TgLoggerd.ReplyWalks
import TgLoggerd.FileStore
import TgLoggerd.FileDeduplication
import TgLoggerd.FileRace
import TgLoggerd.FileBytes
import TgLoggerd.PhotoPipeline
import TgLoggerd.PhotoEvents
import TgLoggerd.NewestPhoto
import TgLoggerd.ForwardFlags
import TgLoggerd.Archive
import TgLoggerd.ArchiveRefinement
import TgLoggerd.FullInfos
import TgLoggerd.AdminRetention
import TgLoggerd.AdminPolling
import TgLoggerd.AdminEviction
import TgLoggerd.Heartbeat
import TgLoggerd.MessageStatements
import TgLoggerd.MessageRefinement
import TgLoggerd.Database
import TgLoggerd.RowLayout
import TgLoggerd.EntityStatements
import TgLoggerd.Scripts
import TgLoggerd.ConnectionPool
import TgLoggerd.ThreadPool
import TgLoggerd.ThreadPoolContract
import TgLoggerd.JobFlow
import TgLoggerd.Store
import TgLoggerd.Transactions
import TgLoggerd.StoreTransactions
import TgLoggerd.Daemon
import TgLoggerd.DaemonFiles
import TgLoggerd.DaemonLedger
import TgLoggerd.DaemonOrigins
import TgLoggerd.DaemonKinds
import TgLoggerd.Supply
import TgLoggerd.ForeignKeys
import TgLoggerd.DaemonKeys
import TgLoggerd.DaemonSupply
import TgLoggerd.DaemonHistory
import TgLoggerd.WorkerSystem
import TgLoggerd.WorkerInvariants
import TgLoggerd.WorkerProgress
import TgLoggerd.WorkerOrder
import TgLoggerd.WorkerSizing
import TgLoggerd.Process
import TgLoggerd.ProcessRefinement
import TgLoggerd.FileDigest
