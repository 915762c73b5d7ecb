import Triangle.CursorPool.Gaps
import Triangle.CursorRuntime.Poison
import Triangle.CursorRuntime.Replies
import Triangle.CursorRuntime.Wedge
import Triangle.Handoff.Completion
import Triangle.HeadlessDrain.SkippedTicks
import Triangle.Identity.Continuity
import Triangle.Lease.Handoff
import Triangle.LinuxRuntime.Wedges
import Triangle.LocalMessaging.DepthSends
import Triangle.LocalMessaging.DirectoryRuns
import Triangle.LocalMessaging.DispatcherRuns
import Triangle.LocalMessaging.EnvelopeHash
import Triangle.LocalMessaging.InboxClaims
import Triangle.LocalMessaging.InboxReading
import Triangle.LocalMessaging.ProtocolStream
import Triangle.LocalMessaging.ReconcileExact
import Triangle.LocalMessaging.ReplyBounds
import Triangle.LocalMessaging.WakeSafety
import Triangle.Mailbox.ConflictRecovery
import Triangle.Mailbox.Progress
import Triangle.Mailbox.Recovery
import Triangle.MailboxClient.PoisonDeliveries
import Triangle.OwnerCli.KeyRuns
import Triangle.OwnerCli.SignedBytes
import Triangle.PeerDrain.Acks
import Triangle.PeerDrain.AtMostOnce
import Triangle.PeerDrain.FrameSize
import Triangle.PeerDrain.ReplyKept
import Triangle.PeerDrain.SendWindow
import Triangle.PeerEngine.Agreement
import Triangle.PeerEngine.InboundOnce
import Triangle.PeerEngine.InboxCursor
import Triangle.PeerEngine.Quota
import Triangle.PeerEngine.TornTail
import Triangle.Router.PrincipalRouting
import Triangle.WakeClient.Barrier
import Triangle.WakeScheduler.Wakes
import Triangle.WorkerPool.Exclusive
import Triangle.ClientSupervisor.WatchGrants
import Triangle.Router.LastingRoutes
