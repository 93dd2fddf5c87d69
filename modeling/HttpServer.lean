import HttpServer.Library.TransitionSystem
import HttpServer.Library.UnorderedMap
import HttpServer.Library.RefinementMapping
import HttpServer.Library.Specification
import HttpServer.Library.Footprint
import HttpServer.Library.Replay
import HttpServer.Library.HandleLog
import HttpServer.Library.LockOrder
import HttpServer.Library.RelyGuarantee
import HttpServer.Library.StoppableLoop
import HttpServer.Library.QueueAccount
import HttpServer.Library.SegmentedLog
import HttpServer.Library.CharArray
import HttpServer.Basic
import HttpServer.NetworkManagerCore
import HttpServer.ManagerRuns
import HttpServer.ConnectionTables
import HttpServer.FailedOperations
import HttpServer.ListenerNames
import HttpServer.LiveConnections
import HttpServer.ManagerRepresentation
import HttpServer.Switchboard
import HttpServer.SwitchboardRefinement
import HttpServer.StatusEvents
import HttpServer.ListenerIsolation
import HttpServer.CallbackSafety
import HttpServer.ThreadPool
import HttpServer.TaskDispatch
import HttpServer.ServerRequests
import HttpServer.Listener
import HttpServer.ListenerTeardown
import HttpServer.ManagedListener
import HttpServer.MessageFlow
import HttpServer.PollErrors
import HttpServer.ManagerWorld
import HttpServer.ManagerEntries
import HttpServer.HandleProtocol
import HttpServer.PollingHandles
import HttpServer.ListeningAgreement
import HttpServer.RestartedListener
import HttpServer.ListenerSessions
import HttpServer.DeliveredMessages
import HttpServer.SessionMessages
import HttpServer.BoundedService
import HttpServer.ManagerTables
import HttpServer.ServedNotifications
import HttpServer.ServedFlags
import HttpServer.AnswerableRequests
import HttpServer.NetworkManager
import HttpServer.FunctionPolling
import HttpServer.ManagerLifecycle
import HttpServer.SerializedCalls
import HttpServer.SwitchboardClients
import HttpServer.SharedQueue
import HttpServer.LogRecords
import HttpServer.LogPipeline
import HttpServer.LogProgress
import HttpServer.RotatedNames
import HttpServer.BoundedWaiting
import HttpServer.NetworkShutdown
import HttpServer.StrandedCallers
import HttpServer.SleepingCalls
import HttpServer.Logger
import HttpServer.ShutdownWakeups
import HttpServer.LoggedEntries
import HttpServer.AsyncFileWriter
import HttpServer.LogRotation
import HttpServer.LogFileSize
import HttpServer.ManagerThreads
import HttpServer.CircularWaits
import HttpServer.GlobalShutdown
import HttpServer.ListenerResources
