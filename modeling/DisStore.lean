import DisStore.Lib.Run
import DisStore.Lib.Trace
import DisStore.Lib.Ring
import DisStore.Lib.Count
import DisStore.Lib.Loop
import DisStore.Lib.Exclusive
import DisStore.Lib.Probe
import DisStore.Lib.Extent
import DisStore.Lib.Buckets
import DisStore.Lib.Bytes
import DisStore.Message
import DisStore.PageSim
import DisStore.SimClient
import DisStore.QpInfo
import DisStore.Handshake
import DisStore.Bio
import DisStore.Stackbd
import DisStore.Client
import DisStore.Link
import DisStore.EvictHandler
import DisStore.Notice
import DisStore.Chunks
import DisStore.Trigger
import DisStore.Route
import DisStore.Bitmap
import DisStore.Hctx
import DisStore.Device
import DisStore.Daemon
import DisStore.Evict
import DisStore.Round
import DisStore.Monitor
import DisStore.Protocol
import DisStore.Registration
import DisStore.RemoteMemory
import DisStore.Calls
import DisStore.EvictList
import DisStore.Activity
import DisStore.Select
import DisStore.PageStore
import DisStore.Proofs.ConnTable
import DisStore.Proofs.MonitorLoop
import DisStore.Proofs.DaemonBooks
import DisStore.Proofs.DaemonAccounting
import DisStore.Proofs.DaemonMaps
import DisStore.Proofs.InfoMessages
import DisStore.Proofs.ChunkActivity
import DisStore.Proofs.EvictSelect
import DisStore.Proofs.StopMessages
import DisStore.Proofs.EvictColdest
import DisStore.Proofs.RoundIsolation
import DisStore.Proofs.ReplyState
import DisStore.Proofs.SlabOwnership
import DisStore.Proofs.SlabCredentials
import DisStore.Proofs.PrivateSlabs
import DisStore.Proofs.EvictNotice
import DisStore.Proofs.ChunkMaps
import DisStore.Proofs.ChunkStack
import DisStore.Proofs.ClientCounters
import DisStore.Proofs.TriggerExclusive
import DisStore.Proofs.DiskFallback
import DisStore.Proofs.StackbdQueue
import DisStore.Proofs.MemGather
import DisStore.Proofs.PageSimClock
import DisStore.Proofs.PageSimMemory
import DisStore.Proofs.PageSimRing
import DisStore.Proofs.PageSimVictim
import DisStore.Proofs.SimClientBounds
import DisStore.Proofs.QpInfoExchange
import DisStore.Proofs.QpHandshake
import DisStore.Proofs.PortalParser
import DisStore.Proofs.PortalFile
import DisStore.Proofs.Routing
import DisStore.Proofs.TwoChunkWrites
import DisStore.Proofs.BitmapSets
import DisStore.Proofs.HctxNodes
import DisStore.Proofs.PageReads
import DisStore.Proofs.PagePlaces
import DisStore.Proofs.PageRoutes
import DisStore.Proofs.PageCopies
import DisStore.Proofs.PageChains
import DisStore.Proofs.PageMoves
import DisStore.Proofs.ReadYourWrites
import DisStore.Proofs.BackupDisk
import DisStore.Proofs.Contexts
import DisStore.Proofs.FailedPost
import DisStore.Proofs.CtxExclusive
import DisStore.Proofs.DisconnectOnce
import DisStore.Proofs.DeviceService
import DisStore.Proofs.EvictDrain
import DisStore.Proofs.ServerChoice
import DisStore.Proofs.ReportedBind
import DisStore.Proofs.EvictReports
import DisStore.Proofs.EvictListFilled
