import Triangle.LocalMessaging.Journal

/-!
# Claims and replies of interactive sessions

Two functions here commit a change and throw afterwards: an expired claim is
held, and a late reply is kept as evidence. `Committed.thrown` is that case; a
plain error has rolled back.
-/

namespace Triangle.LocalMessaging

open Triangle.Std Triangle.Std.Text

/-- The end of a call that has committed: its value, or an error thrown after
the commit. -/
inductive Committed (α : Type)
  | returned (value : α)
  | thrown (error : MessagingError)

/-- `IDENTIFIER_PATTERN`. -/
def isIdentifier (text : String) : Bool :=
  matchesClass isIdentifierChar 1 256 text

/-- The lease of an executing row has run out. -/
def MessageRow.leaseExpired (row : MessageRow) (now : Int) : Bool :=
  row.leaseExpiresAt.any fun expires => expires ≠ 0 && expires ≤ now

/-- The first statement of `listInbox`: claims whose lease ran out are held. -/
def reapExpiredClaims (requester : String) (now : Int) (journal : Journal) : Journal :=
  journal.updateMessages
    (fun row => row.recipient = requester && row.phase = .executing &&
      row.recipientType = .interactive && row.leaseExpiresAt.any (· ≤ now))
    (fun row => { row with
      phase := .held
      reason := some "lease_expired"
      updatedAt := now }) fun _ => rfl

/-- Arguments of `claimInboxMessage`; `claimToken` is the token the call would draw. -/
structure ClaimArgs where
  messageId : String
  requester : String
  sessionId : String
  generation : Int
  claimId : String
  leaseDurationMs : Int := 3600000
  claimToken : String

/-- What a claim hands out. -/
structure ClaimReceipt where
  messageId : String
  claimToken : Option String
  claimId : Option String
  leaseExpiresAt : Option Int
  requestId : String
  isRetry : Bool

/-- `claimInboxMessage`. -/
def claimInboxMessage (args : ClaimArgs) (now : Int) (journal : Journal) :
    Outcome (Journal × Committed (Option ClaimReceipt)) := do
  require (args.messageId ≠ "" ∧ args.requester ≠ "" ∧ args.sessionId ≠ "" ∧
      isIdentifier args.claimId = true)
    ⟨.invalidParams,
      "messageId, requester, sessionId, generation, and valid nonempty claimId are required"⟩
  match journal.messages.find? args.messageId with
  | none => .error ⟨.notFound, "Message " ++ args.messageId ++ " not found"⟩
  | some row =>
      require (row.recipient = args.requester)
        ⟨.foreignAccessDenied, "Only recipient may claim this message"⟩
      require (row.recipientType = .interactive)
        ⟨.invalidRecipientType, "Message is not an interactive message"⟩
      match row.phase with
      | .executing =>
          if row.leaseExpired now then
            return (journal.updateMessages (·.messageId = args.messageId)
                (fun row => { row with
                  phase := .held
                  reason := some "lease_expired"
                  updatedAt := now }) fun _ => rfl,
              .thrown ⟨.leaseExpired, "Claim lease expired and execution was held"⟩)
          else if row.claimSessionId = some args.sessionId ∧
              row.claimGeneration = some args.generation ∧
              row.claimOperationId = some args.claimId then
            return (journal, .returned (some
              { messageId := row.messageId
                claimToken := row.claimToken
                claimId := row.claimOperationId
                leaseExpiresAt := row.leaseExpiresAt
                requestId := row.requestId
                isRetry := true }))
          else return (journal, .returned none)
      | .queuedLocal =>
          let wanted := if args.leaseDurationMs = 0 then 3600000 else args.leaseDurationMs
          let leaseExpiresAt := now + min (max wanted 1000) 3600000
          return (journal.updateMessages
              (fun row => row.messageId = args.messageId && row.recipient = args.requester &&
                row.phase = .queuedLocal && row.recipientType = .interactive)
              (fun row => { row with
                phase := .executing
                claimToken := some args.claimToken
                claimSessionId := some args.sessionId
                claimGeneration := some args.generation
                claimOperationId := some args.claimId
                leaseExpiresAt := some leaseExpiresAt
                updatedAt := now }) fun _ => rfl,
            .returned (some
              { messageId := args.messageId
                claimToken := some args.claimToken
                claimId := some args.claimId
                leaseExpiresAt := some leaseExpiresAt
                requestId := row.requestId
                isRetry := false }))
      | .completed | .held | .failed => return (journal, .returned none)

/-- Who replies, as authenticated for a pinned route. -/
structure ReplyIdentity where
  bindingId : Option String
  localGeneration : Option Int
  senderProvenance : Option Json

/-- Arguments of `recordInteractiveReply`; `randomReplyId` is the id the call
would draw. -/
structure InteractiveReplyArgs where
  messageId : String
  claimToken : String
  sessionId : String
  generation : Int
  requester : String
  text : String
  replyId : Option String := none
  metadata : List (String × Json) := []
  replyIdentity : Option ReplyIdentity := none
  randomReplyId : String

/-- Verify a pinned route before anything else is looked at. -/
def verifyPin (answers : RouteAnswers) (args : InteractiveReplyArgs) (original : MessageRow) :
    Outcome (Option PinAdvance) :=
  match original.replyRouteKey.filter (· ≠ "") with
  | none => .ok none
  | some _ =>
      match args.replyIdentity with
      | none => .error ⟨.replyRouteUnavailable, "Authenticated reply identity required"⟩
      | some identity => do
          require (answers.available = true)
            ⟨.replyRouteUnavailable, "Authenticated reply identity required"⟩
          require ((identity.bindingId.filter (· ≠ "")).isSome)
            ⟨.sessionFenced, "Authenticated reply child required"⟩
          require (answers.attached args.requester args.generation identity.bindingId = true)
            ⟨.sessionFenced, "Pinned session attachment changed before journal commit"⟩
          require (identity.localGeneration = some args.generation)
            ⟨.generationFenced, "Authenticated generation differs from reply generation"⟩
          let advance ← answers.verifyInTransaction
          require (advance.localAddress = args.requester ∧
              advance.remoteAddress = original.sender)
            ⟨.replySessionMismatch, "Reply pin differs from message identities"⟩
          return some advance

/-- `commitAcceptedReply`. -/
def commitAcceptedReply (answers : RouteAnswers) (pin : Option PinAdvance)
    (args : InteractiveReplyArgs) (journal : Journal) : Outcome Journal :=
  match pin with
  | none => .ok journal
  | some _ => do
      answers.advanceInTransaction
      return journal.updateMessages (·.messageId = args.messageId)
        (fun row => { row with claimGeneration := some args.generation }) fun _ => rfl

section

variable (runtime : JournalRuntime)

/-- The envelope of an interactive reply. -/
def interactiveEnvelope (args : InteractiveReplyArgs) (original : MessageRow) (replyId : String) :
    Envelope where
  sender := args.requester
  recipient := original.sender
  messageId := replyId
  requestId := original.requestId
  inReplyTo := some args.messageId
  text := args.text
  metadata := some (.withDepth args.metadata (loopDepthOf original.metadataJson + 1))

/-- `recordInteractiveReply`; the flag is `isDuplicate`. -/
def recordInteractiveReply (answers : RouteAnswers) (args : InteractiveReplyArgs) (now : Int)
    (journal : Journal) : Outcome (Journal × Committed (ReplyRow × Bool)) := do
  require (args.messageId ≠ "" ∧ args.claimToken ≠ "" ∧ args.requester ≠ "" ∧
      args.sessionId ≠ "")
    ⟨.invalidParams,
      "messageId, claimToken, requester, sessionId, generation, and text are required"⟩
  match journal.messages.find? args.messageId with
  | none =>
      .error ⟨.invalidReplyCorrelation, "Original message " ++ args.messageId ++ " not found"⟩
  | some original =>
      require (original.recipient = args.requester)
        ⟨.foreignAccessDenied, "Only original recipient can reply"⟩
      require (original.recipientType = .interactive)
        ⟨.invalidReplyRecipient, "Not an interactive message"⟩
      let pin ← verifyPin answers args original
      -- The claim tuple is checked before any duplicate is accepted or evidence kept.
      require ((original.claimToken.filter (· ≠ "")).isSome ∧
          (original.claimSessionId.filter (· ≠ "")).isSome ∧ original.claimGeneration.isSome)
        ⟨.claimFailed, "Message is not claimed"⟩
      require (original.claimSessionId = some args.sessionId)
        ⟨.sessionFenced, "Claim session mismatch"⟩
      require (original.claimGeneration = some args.generation ∨
          ∃ advance ∈ pin, original.claimGeneration.any (· < args.generation) = true ∧
            advance.localGeneration = args.generation)
        ⟨.generationFenced, "Claim generation mismatch"⟩
      require (original.claimToken = some args.claimToken)
        ⟨.invalidClaimToken, "Claim token mismatch"⟩
      match original.phase with
      | .completed =>
          match (repliesTo journal args.messageId).head? with
          | none => .error ⟨.replyNotAccepted, "Completed message has no recorded reply"⟩
          | some existing =>
              require (∀ replyId ∈ args.replyId.filter (· ≠ ""), replyId = existing.messageId ∨
                  (existing.reconcileId.filter (· ≠ "")).isSome)
                ⟨.duplicateIdConflict, "Reply ID does not match existing reply ID " ++
                  existing.messageId⟩
              require (existing.sender = args.requester ∧ existing.text = args.text ∧
                  existing.canonicalHash = runtime.computeEnvelopeHash
                    (interactiveEnvelope args original existing.messageId))
                ⟨.duplicateIdConflict,
                  "Conflicting reply content or metadata for already completed message"⟩
              let committed ← commitAcceptedReply answers pin args journal
              return (committed, .returned (existing, true))
      | .held =>
          return (journal.updateMessages (·.messageId = args.messageId)
              (fun row => { row with
                lateResultText := some args.text
                updatedAt := now }) fun _ => rfl,
            .thrown ⟨.replyNotAccepted,
              "Message is in phase held; late result retained as held evidence"⟩)
      | .queuedLocal | .failed =>
          .error ⟨.replyNotAccepted, "Message is in phase " ++ original.phase.name⟩
      | .executing =>
          if original.leaseExpired now then
            return (journal.updateMessages (·.messageId = args.messageId)
                (fun row => { row with
                  phase := .held
                  reason := some "lease_expired"
                  lateResultText := some args.text
                  updatedAt := now }) fun _ => rfl,
              .thrown ⟨.leaseExpired,
                "Claim lease expired; late result retained as held evidence"⟩)
          else
            let replyId := (args.replyId.filter (· ≠ "")).getD args.randomReplyId
            let envelope := interactiveEnvelope args original replyId
            let hash := runtime.computeEnvelopeHash envelope
            match journal.replies.find? replyId with
            | some existing =>
                require (existing.canonicalHash = hash)
                  ⟨.duplicateIdConflict, "Conflicting reply ID: " ++ replyId⟩
                let committed ← commitAcceptedReply answers pin args journal
                return (committed, .returned (existing, true))
            | none =>
                let row : ReplyRow :=
                  { messageId := replyId
                    sender := args.requester
                    recipient := original.sender
                    requestId := original.requestId
                    inReplyTo := args.messageId
                    text := args.text
                    metadataJson := envelope.metadata
                    canonicalHash := hash
                    consumed := false
                    createdAt := now
                    updatedAt := now
                    senderProvenanceJson := pin.bind fun _ =>
                      args.replyIdentity.bind (·.senderProvenance) }
                let replied := { journal with replies := journal.replies.upsert row }.updateMessages
                  (·.messageId = args.messageId)
                  (fun message => { message with
                    phase := .completed
                    updatedAt := now }) fun message => Eq.refl message.messageId
                let committed ← commitAcceptedReply answers pin args replied
                return (committed, .returned (row, false))

end

end Triangle.LocalMessaging
