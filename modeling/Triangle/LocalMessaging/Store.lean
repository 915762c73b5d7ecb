import Triangle.Std.Json
import Triangle.Std.Outcome
import Triangle.Std.Table
import Triangle.Std.Text

/-!
# The local messaging database

The rows of `local-messaging.sqlite` and the tables they live in. SQL `NULL` is
`none`; a `TEXT` column that only ever holds members of a fixed list is an
enumeration.

Every path of the host that stores metadata sets `_loopDepth` to an integer
last, so `Metadata` keeps it as a field of its own.
-/

namespace Triangle.LocalMessaging

open Triangle.Std

/-- `phase` of a message. -/
inductive Phase
  | queuedLocal
  | executing
  | completed
  | held
  | failed
  deriving DecidableEq, Repr

/-- `recipient_type` of a message. -/
inductive RecipientType
  | runner
  | interactive
  deriving DecidableEq, Repr

/-- `resolved_via` of a message. -/
inductive ResolvedVia
  | id
  | principal
  deriving DecidableEq, Repr

/-- Stored metadata: an object whose `_loopDepth` the host sets. -/
structure Metadata where
  others : List (String × Json)
  loopDepth : Int

/-- A row of `local_messages`. -/
structure MessageRow where
  messageId : String
  sender : String
  recipient : String
  recipientType : RecipientType
  requestId : String
  inReplyTo : Option String
  text : String
  metadataJson : Option Metadata
  canonicalHash : String
  phase : Phase
  createdAt : Int
  updatedAt : Int
  toPrincipal : Option String
  resolvedVia : Option ResolvedVia
  reason : Option String := none
  runtimeError : Option String := none
  replyRouteKey : Option String := none
  senderProvenanceJson : Option Json := none
  lateResultText : Option String := none
  claimToken : Option String := none
  claimSessionId : Option String := none
  claimGeneration : Option Int := none
  claimOperationId : Option String := none
  leaseExpiresAt : Option Int := none

/-- A row of `local_replies`. -/
structure ReplyRow where
  messageId : String
  sender : String
  recipient : String
  requestId : String
  inReplyTo : String
  text : String
  metadataJson : Option Metadata
  canonicalHash : String
  consumed : Bool
  createdAt : Int
  updatedAt : Int
  senderProvenanceJson : Option Json := none
  reconcileId : Option String := none

/-- `RECONCILE_ACTIONS`. -/
inductive ReconcileAction
  | markFailed
  | markCompleted
  | acceptLateResult
  deriving DecidableEq, Repr

/-- A row of `local_reconciliations`. -/
structure ReconciliationRow where
  reconcileId : String
  messageId : String
  action : ReconcileAction
  fromPhase : Phase
  fromReason : Option String
  expectedVersion : String
  lateResultSha256 : Option String
  replyMessageId : Option String
  outcomePhase : Phase
  note : Option String
  createdAt : Int

/-- A row of `local_pair_admissions`. -/
structure PairAdmission where
  pairKey : String
  messageId : String
  createdAt : Int

/-- The tables that the message operations read and write. -/
structure Journal where
  messages : Table MessageRow.messageId
  replies : Table ReplyRow.messageId
  reconciliations : Table ReconciliationRow.reconcileId
  pairAdmissions : Table PairAdmission.messageId

/-- `ORDER BY created_at ASC, message_id ASC`. -/
def orderByCreated {Row : Type} (createdAt : Row → Int) (messageId : Row → String)
    (rows : List Row) : List Row :=
  rows.mergeSort fun first second =>
    createdAt first < createdAt second ||
      (createdAt first = createdAt second && messageId first ≤ messageId second)

/-- The codes that the journal throws. -/
inductive MessagingErrorCode
  | bindingChanged
  | claimFailed
  | directoryFull
  | duplicateIdConflict
  | exchangeLimitExceeded
  | executionNotActive
  | foreignAccessDenied
  | generationFenced
  | invalidClaimToken
  | invalidCursor
  | invalidDiscoveryEvent
  | invalidEnvelope
  | invalidParams
  | invalidRecipientType
  | invalidReplyCorrelation
  | invalidReplyRecipient
  | invalidReplyRoute
  | invalidReplySender
  | invalidRequest
  | invalidSender
  | lateResultMismatch
  | lateResultMissing
  | leaseExpired
  | loopLimitExceeded
  | notFound
  | notReconcilable
  | parentNotFound
  | payloadTooLarge
  | rateLimitExceeded
  | recipientNotAllowed
  | recipientNotFound
  | replyExists
  | replyMissing
  | replyNotAccepted
  | replyNotFound
  | replyRouteMissing
  | replyRoutePinned
  | replyRouteUnavailable
  | replySessionMismatch
  | routeUnavailable
  | sessionFenced
  | sqliteConstraint
  | sqliteError
  | staleView
  | staleWakeGeneration
  | staleWakeId
  | staleWakeRebound
  | unknownWakeTarget
  | wakeNotStale
  | wakeStateConflict
  deriving DecidableEq, Repr

/-- A thrown `LocalMessagingError`. -/
structure MessagingError where
  code : MessagingErrorCode
  message : String
  deriving DecidableEq, Repr

/-- What a journal function returns or throws. -/
abbrev Outcome (α : Type) := Except MessagingError α

end Triangle.LocalMessaging
