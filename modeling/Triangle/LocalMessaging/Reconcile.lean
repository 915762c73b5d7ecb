import Triangle.LocalMessaging.Interactive

/-!
# Owner reconciliation

The offline owner closes one held record: as failed, as completed with the reply
it already has, or as completed with its late result as the reply. The same
checks run read-only before the journal is opened and again inside the
transaction.
-/

namespace Triangle.LocalMessaging

open Triangle.Std Triangle.Std.Text

/-- A reconciliation request. -/
structure ReconcileRequest where
  messageId : String
  reconcileId : String
  action : ReconcileAction
  expectVersion : String
  expectLateHash : Option String := none
  expectReplyId : Option String := none
  note : Option String := none

/-- The command-line word of an action. -/
def ReconcileAction.name : ReconcileAction → String
  | .markFailed => "mark-failed"
  | .markCompleted => "mark-completed"
  | .acceptLateResult => "accept-late-result"

/-- `replyIdsFor`. -/
def replyIdsFor (journal : Journal) (messageId : String) : List String :=
  ((repliesTo journal messageId).map ReplyRow.messageId).mergeSort fun first second =>
    first ≤ second

/-- `validateReconcileRequest`. -/
def validateReconcileRequest (request : ReconcileRequest) : Outcome Unit := do
  require (isIdentifier request.messageId = true)
    ⟨.invalidParams, "A valid messageId is required"⟩
  require (matchesClass isIdentifierChar 1 128 request.reconcileId = true)
    ⟨.invalidParams, "reconcileId must be 1 to 128 identifier characters"⟩
  require (isHex64 request.expectVersion = true)
    ⟨.invalidParams, "expectVersion must be the version shown by held"⟩
  require (∀ hash ∈ request.expectLateHash, isHex64 hash = true)
    ⟨.invalidParams, "expectLateHash must be the SHA-256 shown by held"⟩
  require (request.action = .acceptLateResult → request.expectLateHash.isSome)
    ⟨.invalidParams, "expectLateHash is required to accept a late result"⟩
  require (request.action = .markCompleted → request.expectReplyId.any isIdentifier = true)
    ⟨.invalidParams, "expectReplyId is required to complete a record that already has a reply"⟩
  require (request.action ≠ .markCompleted → request.expectReplyId = none)
    ⟨.invalidParams, "expectReplyId applies only to mark-completed"⟩
  require (∀ note ∈ request.note, utf16Length note ≤ 256)
    ⟨.invalidParams, "note must be text of at most 256 characters"⟩

/-- `checkReconcileRetry`. -/
def checkReconcileRetry (prior : ReconciliationRow) (request : ReconcileRequest) : Outcome Unit :=
  require (prior.messageId = request.messageId ∧ prior.action = request.action ∧
      prior.expectedVersion = request.expectVersion ∧
      prior.lateResultSha256 = request.expectLateHash ∧ prior.note = request.note ∧
      (request.action = .markCompleted → prior.replyMessageId = request.expectReplyId))
    ⟨.duplicateIdConflict, "reconcileId " ++ prior.reconcileId ++
      " was already used for a different request"⟩

/-- `notReconcilableMessage`. -/
def notReconcilableMessage (journal : Journal) (row : MessageRow) : String :=
  let closing := (journal.reconciliations.select (·.messageId = row.messageId)).mergeSort
    fun first second => second.createdAt ≤ first.createdAt
  "Message is in phase " ++ row.phase.name ++
    match closing.head? with
    | some closed => "; already reconciled by " ++ closed.reconcileId ++ " (" ++
        closed.action.name ++ ")"
    | none => ""

section

variable (runtime : JournalRuntime)

/-- `reconcileVersion`. -/
def reconcileVersion (row : MessageRow) (replyIds : List String) : String :=
  runtime.hashVersion
    { messageId := row.messageId
      phase := row.phase
      reason := row.reason
      updatedAt := row.updatedAt
      leaseExpiresAt := row.leaseExpiresAt
      claimOperationId := row.claimOperationId
      lateResultSha256 := (row.lateResultText.filter (· ≠ "")).map runtime.sha256Hex
      replyIds := replyIds }

/-- The id of the reply that accepts a late result. -/
def lateReplyId (reconcileId : String) : String :=
  "rep-rc-" ++ reconcileId

/-- `checkReconcileRecord`; it returns the row and its late text. -/
def checkReconcileRecord (request : ReconcileRequest) (journal : Journal) :
    Outcome (MessageRow × Option String) :=
  match journal.messages.find? request.messageId with
  | none => .error ⟨.notFound, "Message " ++ request.messageId ++ " not found"⟩
  | some row => do
      require (row.phase ≠ .executing)
        ⟨.notReconcilable, "The record is still executing; a normal open holds it. " ++
          "Start and stop the service once, then list it again"⟩
      require (row.phase = .held) ⟨.notReconcilable, notReconcilableMessage journal row⟩
      let replyIds := replyIdsFor journal request.messageId
      let current := reconcileVersion runtime row replyIds
      require (current = request.expectVersion)
        ⟨.staleView, "The record changed since it was listed; list it again (current version " ++
          current ++ ")"⟩
      let lateText := row.lateResultText
      let lateHash := (lateText.filter (· ≠ "")).map runtime.sha256Hex
      match request.action with
      | .acceptLateResult =>
          require (replyIds = [])
            ⟨.replyExists, "A reply to this message exists; " ++
              "complete the record with mark-completed instead"⟩
          require lateHash.isSome
            ⟨.lateResultMissing, "The record has no late result to accept"⟩
          require (lateHash = request.expectLateHash)
            ⟨.lateResultMismatch, "The late result differs from the one that was reviewed"⟩
          require ((row.replyRouteKey.filter (· ≠ "")).isNone)
            ⟨.replyRoutePinned,
              "A pinned reply route needs the attached chat; close the record instead"⟩
          require ((journal.replies.find? (lateReplyId request.reconcileId)).isNone)
            ⟨.duplicateIdConflict,
              "Reply ID " ++ lateReplyId request.reconcileId ++ " already exists"⟩
          return (row, lateText)
      | .markFailed =>
          require (lateHash = request.expectLateHash)
            ⟨.lateResultMismatch, if lateHash.isSome then
                "Closing discards the retained late result; pass the hash of the text you reviewed"
              else "The record has no late result to acknowledge"⟩
          require (replyIds = [])
            ⟨.replyExists, "A reply to this message exists; " ++
              "complete the record with mark-completed instead"⟩
          return (row, lateText)
      | .markCompleted =>
          require (lateHash = request.expectLateHash)
            ⟨.lateResultMismatch, if lateHash.isSome then
                "Closing discards the retained late result; pass the hash of the text you reviewed"
              else "The record has no late result to acknowledge"⟩
          require (∃ replyId ∈ request.expectReplyId, replyId ∈ replyIds)
            ⟨.replyMissing, "No reply " ++ request.expectReplyId.getD "null" ++
              " to this message exists"⟩
          return (row, lateText)

/-- `precheckReconcileDatabase` on a valid request. -/
def precheckReconcile (request : ReconcileRequest) (journal : Journal) : Outcome Unit := do
  validateReconcileRequest request
  match journal.reconciliations.find? request.reconcileId with
  | some prior => checkReconcileRetry prior request
  | none =>
      let _ ← checkReconcileRecord runtime request journal
      return ()

/-- What `reconcileMessage` answers. -/
structure ReconcileOutcome where
  outcomePhase : Phase
  replyMessageId : Option String
  isDuplicate : Bool

/-- The reply that accepts a late result. -/
def lateReplyRow (request : ReconcileRequest) (row : MessageRow) (lateText : Option String)
    (now : Int) : ReplyRow :=
  let envelope : Envelope :=
    { sender := row.recipient
      recipient := row.sender
      messageId := lateReplyId request.reconcileId
      requestId := row.requestId
      inReplyTo := some request.messageId
      text := lateText.getD ""
      metadata := some (.withDepth [] (loopDepthOf row.metadataJson + 1)) }
  { messageId := envelope.messageId
    sender := envelope.sender
    recipient := envelope.recipient
    requestId := envelope.requestId
    inReplyTo := request.messageId
    text := envelope.text
    metadataJson := envelope.metadata
    canonicalHash := runtime.computeEnvelopeHash envelope
    consumed := false
    createdAt := now
    updatedAt := now
    reconcileId := some request.reconcileId }

/-- `reconcileMessage`. -/
def reconcileMessage (request : ReconcileRequest) (now : Int) (journal : Journal) :
    Outcome (Journal × ReconcileOutcome) := do
  validateReconcileRequest request
  match journal.reconciliations.find? request.reconcileId with
  | some prior =>
      checkReconcileRetry prior request
      return (journal, ⟨prior.outcomePhase, prior.replyMessageId, true⟩)
  | none =>
      let (row, lateText) ← checkReconcileRecord runtime request journal
      let replyMessageId := match request.action with
        | .acceptLateResult => some (lateReplyId request.reconcileId)
        | .markCompleted => request.expectReplyId
        | .markFailed => none
      let outcomePhase : Phase := if request.action = .markFailed then .failed else .completed
      let reason := match request.action with
        | .acceptLateResult => "owner_accepted_late_result"
        | .markFailed => "owner_marked_failed"
        | .markCompleted => "owner_marked_completed"
      let replied := if request.action = .acceptLateResult then
          { journal with
            replies := journal.replies.upsert (lateReplyRow runtime request row lateText now) }
        else journal
      let closed := replied.updateMessages
        (fun message => message.messageId = request.messageId && message.phase = .held)
        (fun message => { message with
          phase := outcomePhase
          reason := some reason
          lateResultText := none
          updatedAt := now }) fun _ => rfl
      return ({ closed with
          reconciliations := closed.reconciliations.upsert
            { reconcileId := request.reconcileId
              messageId := request.messageId
              action := request.action
              fromPhase := row.phase
              fromReason := row.reason
              expectedVersion := request.expectVersion
              lateResultSha256 := request.expectLateHash
              replyMessageId := replyMessageId
              outcomePhase := outcomePhase
              note := request.note
              createdAt := now } },
        ⟨outcomePhase, replyMessageId, false⟩)

end

end Triangle.LocalMessaging
