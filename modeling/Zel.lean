import Zel.GracefulShutdown
import Zel.OpenCircuit
import Zel.NotificationOrder
import Zel.StreamCorrelation
import Zel.OrphanStreams
import Zel.ResponseFrame
import Zel.RpcExecution
import Zel.Extensions
import Zel.TaskAccounting
import Zel.AcceptLoops
import Zel.ShutdownListeners
import Zel.ResponseDelivery
import Zel.Subscription
import Zel.ServiceBuilder
import Zel.ErrorMarks
import Zel.SeverityAccounting
import Zel.ServiceMacro
import Zel.RetryAccounting
import Zel.Parameters
import Zel.SubscriberReplies
import Zel.RetryReset
import Zel.RetryValidation
import Zel.RequestCodec
import Zel.Provenance
import Zel.RemoteCall
import Zel.RequestLifecycle
import Zel.AttributeGrammar
import Zel.Quiescence
import Zel.NotificationReplies
import Zel.TypeNames
import Zel.GeneratedCalls
import Zel.RetriedCalls
import Zel.GuardedServer
import Zel.BreakerStatistics
import Zel.SeveralServices
import Zel.ServerSettings
