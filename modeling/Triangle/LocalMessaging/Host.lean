import Triangle.LocalMessaging.Reconcile
import Triangle.Semantics.Machine

/-!
# The local messaging host

The host serves RPCs and runs a dispatcher over one journal; the offline owner
opens the same journal while no host does (an exclusive lock keeps them apart).
Opening holds every execution that was cut off.

A dispatcher job exists from its claim to its last journal call. When and which
jobs are claimed, how a runner ends and when the process dies are all labels.
-/

namespace Triangle.LocalMessaging

open Triangle.Std Triangle.Semantics

/-- Who has the journal open. -/
inductive HostMode
  | down
  | serving
  | owner
  deriving DecidableEq, Repr

/-- A claimed runner job. `persistFailed` is the `catch` of a completion that
could not be stored. -/
structure Job where
  messageId : String
  sender : String
  recipient : String
  requestId : String
  loopDepth : Int
  persistFailed : Bool := false

/-- The journal and the process around it. -/
structure Host where
  mode : HostMode
  journal : Journal
  jobs : List Job

/-- One step of the host, the dispatcher, the owner or the machine under them. -/
inductive HostLabel
  | openService (now : Int)
  | openOwner (request : ReconcileRequest) (now : Int)
  | stop
  | sendMessage (answers : RouteAnswers) (envelope : Envelope) (options : SendOptions)
  | admissionFailure (messageId : String) (now : Int)
  | listInbox (requester : String) (now : Int)
  | claimInboxMessage (args : ClaimArgs) (now : Int)
  | sendReply (answers : RouteAnswers) (args : InteractiveReplyArgs) (now : Int)
  | consumeReply (requester messageId : String) (now : Int)
  | recoverQueued (now : Int)
  | claimExecution (messageId : String) (now : Int)
  | runnerCompleted (messageId replyId text : String) (metadata : List (String × Json)) (now : Int)
  | runnerHeld (messageId reason : String) (lateResultText : Option String) (now : Int)
  | runnerFailed (messageId reason : String) (runtimeError : Option String) (now : Int)
  | persistFailure (messageId : String) (runtimeError : Option String) (now : Int)
  | compact (now retentionMs : Int)
  | reconcileMessage (request : ReconcileRequest) (now : Int)

/-- The journal after a call that may have rolled back. -/
def Host.commit {α : Type} (host : Host) (result : Outcome (Journal × α)) : Host :=
  match result with
  | .ok (journal, _) => { host with journal := journal }
  | .error _ => host

/-- The unfinished job of a message. -/
def Host.job? (host : Host) (messageId : String) (persistFailed : Bool) : Option Job :=
  host.jobs.find? fun job => job.messageId = messageId && job.persistFailed = persistFailed

/-- The host once the job of a message has ended with `journal`. -/
def Host.endJob (host : Host) (messageId : String) (journal : Journal) : Host :=
  { host with
    journal := journal
    jobs := host.jobs.filter fun job => job.messageId ≠ messageId }

/-- The job that a claim starts. -/
def Job.ofClaim (row : MessageRow) : Job where
  messageId := row.messageId
  sender := row.sender
  recipient := row.recipient
  requestId := row.requestId
  loopDepth := loopDepthOf row.metadataJson

/-- The reply envelope of a completed job. -/
def Job.replyEnvelope (job : Job) (replyId text : String) (metadata : List (String × Json)) :
    Envelope where
  sender := job.recipient
  recipient := job.sender
  messageId := replyId
  requestId := job.requestId
  inReplyTo := some job.messageId
  text := text
  metadata := some (.withDepth metadata (job.loopDepth + 1))

section

variable (runtime : JournalRuntime)

/-- A step while the host serves. -/
def serveStep (host : Host) : HostLabel → Host
  | .sendMessage answers envelope options =>
      host.commit (recordSend runtime answers envelope options host.journal)
  | .admissionFailure messageId now =>
      { host with
        journal := recordExecutionFailure messageId "admission_failure"
          (some "Execution admission failed") now host.journal }
  | .listInbox requester now =>
      { host with journal := reapExpiredClaims requester now host.journal }
  | .claimInboxMessage args now =>
      host.commit (LocalMessaging.claimInboxMessage args now host.journal)
  | .sendReply answers args now =>
      host.commit (recordInteractiveReply runtime answers args now host.journal)
  | .consumeReply requester messageId now =>
      match LocalMessaging.consumeReply requester messageId now host.journal with
      | .ok journal => { host with journal := journal }
      | .error _ => host
  | .recoverQueued now => { host with journal := holdExecuting now host.journal }
  | .claimExecution messageId now =>
      match LocalMessaging.claimExecution messageId now host.journal with
      | (journal, some row) =>
          { host with journal := journal, jobs := host.jobs ++ [.ofClaim row] }
      | (journal, none) => { host with journal := journal }
  | .runnerCompleted messageId replyId text metadata now =>
      match host.job? messageId false with
      | none => host
      | some job =>
          match completeExecutionWithReply runtime (job.replyEnvelope replyId text metadata) now
              host.journal with
          | .ok (journal, _) => host.endJob messageId journal
          | .error _ =>
              { host with
                jobs := host.jobs.map fun other =>
                  if other.messageId = messageId then { other with persistFailed := true }
                  else other }
  | .runnerHeld messageId reason lateResultText now =>
      match host.job? messageId false with
      | none => host
      | some _ =>
          host.endJob messageId (holdExecution messageId reason lateResultText now host.journal)
  | .runnerFailed messageId reason runtimeError now =>
      match host.job? messageId false with
      | none => host
      | some _ =>
          host.endJob messageId
            (recordExecutionFailure messageId reason runtimeError now host.journal)
  | .persistFailure messageId runtimeError now =>
      match host.job? messageId true with
      | none => host
      | some _ =>
          host.endJob messageId
            (recordExecutionFailure messageId "persistence_failure" runtimeError now host.journal)
  | .compact now retentionMs =>
      { host with journal := LocalMessaging.compact runtime now retentionMs host.journal }
  | .openService _ | .openOwner _ _ | .stop | .reconcileMessage _ _ => host

/-- One step of the system. -/
def hostStep (host : Host) (label : HostLabel) : Host :=
  match label, host.mode with
  | .stop, _ => { host with mode := .down, jobs := [] }
  | .openService now, .down =>
      { host with mode := .serving, journal := holdExecuting now host.journal }
  | .openOwner request now, .down =>
      match precheckReconcile runtime request host.journal with
      | .ok _ => { host with mode := .owner, journal := holdExecuting now host.journal }
      | .error _ => host
  | .reconcileMessage request now, .owner =>
      host.commit (LocalMessaging.reconcileMessage runtime request now host.journal)
  | label, .serving => serveStep runtime host label
  | _, _ => host

/-- The host from an empty journal. -/
def hostMachine : Machine Host HostLabel where
  initial :=
    { mode := .down
      journal :=
        { messages := .empty
          replies := .empty
          reconciliations := .empty
          pairAdmissions := .empty }
      jobs := [] }
  step := hostStep runtime

end

end Triangle.LocalMessaging
