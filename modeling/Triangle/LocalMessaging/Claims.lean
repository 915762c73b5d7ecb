import Triangle.LocalMessaging.Reconcile

/-!
# What a claim and a reply come to

`claimInboxMessage` and `recordInteractiveReply` branch on one row inside one
transaction. `ClaimEnd` and `ReplyEnd` list how a call that commits can end, with
all that it has checked; proofs about either function go by these cases.
-/

namespace Triangle.LocalMessaging

open Triangle.Std Triangle.Std.Text

/-- The lease that a claim is given: an hour unless the call names another one, and
between a second and an hour. -/
def ClaimArgs.lease (args : ClaimArgs) : Int :=
  min (max (if args.leaseDurationMs = 0 then 3600000 else args.leaseDurationMs) 1000) 3600000

theorem ClaimArgs.lease_pos (args : ClaimArgs) : 0 < args.lease := by
  unfold ClaimArgs.lease
  omega

/-- The row as a claim leaves it. -/
def MessageRow.claimed (row : MessageRow) (args : ClaimArgs) (now : Int) : MessageRow :=
  { row with
    phase := .executing
    claimToken := some args.claimToken
    claimSessionId := some args.sessionId
    claimGeneration := some args.generation
    claimOperationId := some args.claimId
    leaseExpiresAt := some (now + args.lease)
    updatedAt := now }

/-- The row once its lease is found to have run out. -/
def MessageRow.expired (row : MessageRow) (now : Int) : MessageRow :=
  { row with
    phase := .held
    reason := some "lease_expired"
    updatedAt := now }

/-- The row with the text of a reply that came too late. -/
def MessageRow.late (row : MessageRow) (text : String) (now : Int) : MessageRow :=
  { row with
    lateResultText := some text
    updatedAt := now }

/-- The row that a reply completes. -/
def MessageRow.answered (row : MessageRow) (now : Int) : MessageRow :=
  { row with
    phase := .completed
    updatedAt := now }

/-- Change the row of one message. -/
def Journal.setMessage (journal : Journal) (messageId : String) (change : MessageRow → MessageRow)
    (keeps : ∀ row, (change row).messageId = row.messageId) : Journal :=
  journal.updateMessages (·.messageId = messageId) change keeps

/-- How a claim that commits ends, for the row it read. -/
inductive ClaimEnd (args : ClaimArgs) (now : Int) (journal : Journal) (row : MessageRow) :
    Journal → Committed (Option ClaimReceipt) → Prop
  | expired (executing : row.phase = .executing) (isExpired : row.leaseExpired now = true) :
      ClaimEnd args now journal row
        (journal.setMessage args.messageId (·.expired now) fun _ => rfl)
        (.thrown ⟨.leaseExpired, "Claim lease expired and execution was held"⟩)
  | retried (executing : row.phase = .executing) (isLive : row.leaseExpired now = false)
      (sameSession : row.claimSessionId = some args.sessionId)
      (sameGeneration : row.claimGeneration = some args.generation)
      (sameClaim : row.claimOperationId = some args.claimId) :
      ClaimEnd args now journal row journal
        (.returned (some
          { messageId := row.messageId
            claimToken := row.claimToken
            claimId := row.claimOperationId
            leaseExpiresAt := row.leaseExpiresAt
            requestId := row.requestId
            isRetry := true }))
  | refused (notQueued : row.phase ≠ .queuedLocal) :
      ClaimEnd args now journal row journal (.returned none)
  | granted (queued : row.phase = .queuedLocal) :
      ClaimEnd args now journal row
        (journal.setMessage args.messageId (·.claimed args now) fun _ => rfl)
        (.returned (some
          { messageId := args.messageId
            claimToken := some args.claimToken
            claimId := some args.claimId
            leaseExpiresAt := some (now + args.lease)
            requestId := row.requestId
            isRetry := false }))

section

variable {journal after : Journal}

/-- An update that selects one message by more than its id is one of its row. -/
theorem updateMessages_eq_setMessage {messageId : String} {selected : MessageRow → Bool}
    {change : MessageRow → MessageRow} {keeps : ∀ row, (change row).messageId = row.messageId}
    {row : MessageRow} (found : journal.messages.find? messageId = some row)
    (chosen : selected row = true)
    (byId : ∀ other, selected other = true → other.messageId = messageId) :
    journal.updateMessages selected change keeps = journal.setMessage messageId change keeps := by
  obtain ⟨member, rfl⟩ := Table.find?_some found
  have sameMessages : (journal.updateMessages selected change keeps).messages =
      (journal.setMessage row.messageId change keeps).messages := by
    ext1
    change journal.messages.rows.map _ = journal.messages.rows.map _
    refine List.map_congr_left fun other otherMember => ?_
    by_cases same : other.messageId = row.messageId
    · have isRow := Table.mem_rows_iff.mp otherMember
      rw [same, found] at isRow
      obtain rfl := Option.some.inj isRow
      rw [if_pos chosen, if_pos (decide_eq_true rfl)]
    · rw [if_neg fun isSelected => same (byId other isSelected),
        if_neg fun isSame => same (of_decide_eq_true isSame)]
  unfold Journal.setMessage Journal.updateMessages at sameMessages ⊢
  dsimp only at sameMessages ⊢
  rw [sameMessages]

/-- A claim that commits has read an interactive message of the requester. -/
theorem claimInboxMessage_ok {args : ClaimArgs} {now : Int}
    {result : Committed (Option ClaimReceipt)}
    (succeeded : claimInboxMessage args now journal = .ok (after, result)) :
    ∃ row, journal.messages.find? args.messageId = some row ∧ row.recipient = args.requester ∧
      row.recipientType = .interactive ∧ ClaimEnd args now journal row after result := by
  simp only [claimInboxMessage, require_bind_ok] at succeeded
  obtain ⟨-, rest⟩ := succeeded
  split at rest
  · cases rest
  next row found =>
    simp only [require_bind_ok] at rest
    obtain ⟨isRecipient, isInteractive, rest⟩ := rest
    refine ⟨row, found, isRecipient, isInteractive, ?_⟩
    split at rest
    next executing =>
      split at rest
      next isExpired =>
        obtain ⟨rfl, rfl⟩ := pair_ok rest
        exact .expired executing isExpired
      next isLive =>
        split at rest
        next same =>
          obtain ⟨rfl, rfl⟩ := pair_ok rest
          exact .retried executing (Bool.eq_false_of_not_eq_true isLive) same.1 same.2.1 same.2.2
        · obtain ⟨rfl, rfl⟩ := pair_ok rest
          exact .refused (executing ▸ nofun)
    next queued =>
      obtain ⟨isAfter, rfl⟩ := pair_ok rest
      obtain ⟨-, rowId⟩ := Table.find?_some found
      rw [updateMessages_eq_setMessage found
        (by simp [rowId, isRecipient, queued, isInteractive])
        (fun other selectedOther => by
          simp only [Bool.and_eq_true, decide_eq_true_eq] at selectedOther
          exact selectedOther.1.1.1)] at isAfter
      subst isAfter
      exact .granted queued
    next completed =>
      obtain ⟨rfl, rfl⟩ := pair_ok rest
      exact .refused (completed ▸ nofun)
    next held =>
      obtain ⟨rfl, rfl⟩ := pair_ok rest
      exact .refused (held ▸ nofun)
    next failed =>
      obtain ⟨rfl, rfl⟩ := pair_ok rest
      exact .refused (failed ▸ nofun)

end

/-- The reply presents the claim of the message: the three claim columns are set
and agree with it. A pinned reply may come from a later generation. -/
structure PresentsClaim (args : InteractiveReplyArgs) (pin : Option PinAdvance)
    (original : MessageRow) : Prop where
  recipient : original.recipient = args.requester
  interactive : original.recipientType = .interactive
  token : original.claimToken = some args.claimToken
  session : original.claimSessionId = some args.sessionId
  generation : original.claimGeneration = some args.generation ∨
    ∃ advance ∈ pin, original.claimGeneration.any (· < args.generation) = true ∧
      advance.localGeneration = args.generation

/-- The reply has the stored content. -/
structure SameReply (runtime : JournalRuntime) (args : InteractiveReplyArgs)
    (original : MessageRow) (existing : ReplyRow) : Prop where
  replyId : ∀ replyId ∈ args.replyId.filter (· ≠ ""), replyId = existing.messageId ∨
    (existing.reconcileId.filter (· ≠ "")).isSome
  sender : existing.sender = args.requester
  text : existing.text = args.text
  hash : existing.canonicalHash = runtime.computeEnvelopeHash
    (interactiveEnvelope args original existing.messageId)

/-- The id under which a reply is stored. -/
def InteractiveReplyArgs.effectiveReplyId (args : InteractiveReplyArgs) : String :=
  (args.replyId.filter (· ≠ "")).getD args.randomReplyId

/-- The row of a new reply. -/
def interactiveReplyRow (runtime : JournalRuntime) (args : InteractiveReplyArgs)
    (pin : Option PinAdvance) (original : MessageRow) (now : Int) : ReplyRow where
  messageId := args.effectiveReplyId
  sender := args.requester
  recipient := original.sender
  requestId := original.requestId
  inReplyTo := args.messageId
  text := args.text
  metadataJson := (interactiveEnvelope args original args.effectiveReplyId).metadata
  canonicalHash :=
    runtime.computeEnvelopeHash (interactiveEnvelope args original args.effectiveReplyId)
  consumed := false
  createdAt := now
  updatedAt := now
  senderProvenanceJson := pin.bind fun _ => args.replyIdentity.bind (·.senderProvenance)

/-- How a reply that commits ends, for the row it read. -/
inductive ReplyEnd (runtime : JournalRuntime) (answers : RouteAnswers)
    (args : InteractiveReplyArgs) (now : Int) (journal : Journal) (pin : Option PinAdvance)
    (original : MessageRow) : Journal → Committed (ReplyRow × Bool) → Prop
  | repeated {after : Journal} (existing : ReplyRow) (completed : original.phase = .completed)
      (stored : (repliesTo journal args.messageId).head? = some existing)
      (same : SameReply runtime args original existing)
      (committed : commitAcceptedReply answers pin args journal = .ok after) :
      ReplyEnd runtime answers args now journal pin original after (.returned (existing, true))
  | keptLate (held : original.phase = .held) :
      ReplyEnd runtime answers args now journal pin original
        (journal.setMessage args.messageId (·.late args.text now) fun _ => rfl)
        (.thrown ⟨.replyNotAccepted,
          "Message is in phase held; late result retained as held evidence"⟩)
  | expired (executing : original.phase = .executing)
      (isExpired : original.leaseExpired now = true) :
      ReplyEnd runtime answers args now journal pin original
        (journal.setMessage args.messageId (fun row => (row.expired now).late args.text now)
          fun _ => rfl)
        (.thrown ⟨.leaseExpired, "Claim lease expired; late result retained as held evidence"⟩)
  | known {after : Journal} (existing : ReplyRow) (executing : original.phase = .executing)
      (isLive : original.leaseExpired now = false)
      (stored : journal.replies.find? args.effectiveReplyId = some existing)
      (sameHash : existing.canonicalHash = runtime.computeEnvelopeHash
        (interactiveEnvelope args original args.effectiveReplyId))
      (committed : commitAcceptedReply answers pin args journal = .ok after) :
      ReplyEnd runtime answers args now journal pin original after (.returned (existing, true))
  | accepted {after : Journal} (executing : original.phase = .executing)
      (isLive : original.leaseExpired now = false)
      (isFree : journal.replies.find? args.effectiveReplyId = none)
      (committed : commitAcceptedReply answers pin args
        ({ journal with
            replies := journal.replies.upsert
              (interactiveReplyRow runtime args pin original now) }.setMessage args.messageId
          (·.answered now) fun _ => rfl) = .ok after) :
      ReplyEnd runtime answers args now journal pin original after
        (.returned (interactiveReplyRow runtime args pin original now, false))

variable {journal after : Journal} {runtime : JournalRuntime} {answers : RouteAnswers}
  {args : InteractiveReplyArgs} {result : Committed (ReplyRow × Bool)}

/-- A reply that commits has read a message whose claim it presents. -/
theorem recordInteractiveReply_ok {now : Int}
    (succeeded : recordInteractiveReply runtime answers args now journal = .ok (after, result)) :
    ∃ original pin, journal.messages.find? args.messageId = some original ∧
      verifyPin answers args original = .ok pin ∧ PresentsClaim args pin original ∧
        ReplyEnd runtime answers args now journal pin original after result := by
  simp only [recordInteractiveReply, require_bind_ok] at succeeded
  obtain ⟨-, rest⟩ := succeeded
  split at rest
  · cases rest
  next original found =>
    simp only [require_bind_ok, bind_ok (verifyPin _ _ _)] at rest
    obtain ⟨isRecipient, isInteractive, pin, verified, -, sameSession, generation, sameToken, rest⟩ :=
      rest
    refine ⟨original, pin, found, verified,
      ⟨isRecipient, isInteractive, sameToken, sameSession, generation⟩, ?_⟩
    split at rest
    next completed =>
      split at rest
      · cases rest
      next existing stored =>
        simp only [require_bind_ok, bind_ok (commitAcceptedReply _ _ _ _)] at rest
        obtain ⟨sameId, same, committed, accepted, rest⟩ := rest
        obtain ⟨rfl, rfl⟩ := pair_ok rest
        exact .repeated existing completed stored ⟨sameId, same.1, same.2.1, same.2.2⟩ accepted
    next held =>
      obtain ⟨rfl, rfl⟩ := pair_ok rest
      exact .keptLate held
    · cases rest
    · cases rest
    next executing =>
      split at rest
      next isExpired =>
        obtain ⟨rfl, rfl⟩ := pair_ok rest
        exact .expired executing isExpired
      next isLive =>
        have live := Bool.eq_false_of_not_eq_true isLive
        split at rest
        next existing stored =>
          simp only [require_bind_ok, bind_ok (commitAcceptedReply _ _ _ _)] at rest
          obtain ⟨sameHash, committed, accepted, rest⟩ := rest
          obtain ⟨rfl, rfl⟩ := pair_ok rest
          exact .known existing executing live stored sameHash accepted
        next isFree =>
          simp only [bind_ok (commitAcceptedReply _ _ _ _)] at rest
          obtain ⟨committed, accepted, rest⟩ := rest
          obtain ⟨rfl, rfl⟩ := pair_ok rest
          exact .accepted executing live isFree accepted

/-- A reply that commits has named what it must. -/
theorem recordInteractiveReply_named {now : Int}
    (succeeded : recordInteractiveReply runtime answers args now journal = .ok (after, result)) :
    args.messageId ≠ "" ∧ args.claimToken ≠ "" ∧ args.requester ≠ "" ∧ args.sessionId ≠ "" := by
  simp only [recordInteractiveReply, require_bind_ok] at succeeded
  exact succeeded.1

/-- A claim that is presented is there. -/
theorem PresentsClaim.claimed {args : InteractiveReplyArgs} {pin : Option PinAdvance}
    {original : MessageRow} (presents : PresentsClaim args pin original)
    (hasToken : args.claimToken ≠ "") (hasSession : args.sessionId ≠ "") :
    (original.claimToken.filter (· ≠ "")).isSome ∧
      (original.claimSessionId.filter (· ≠ "")).isSome ∧ original.claimGeneration.isSome := by
  refine ⟨?_, ?_, ?_⟩
  · simp [presents.token, hasToken]
  · simp [presents.session, hasSession]
  · rcases presents.generation with same | ⟨_, -, isLater, -⟩
    · rw [same, Option.isSome_some]
    · obtain ⟨generation, isGeneration, -⟩ := (Option.any_eq_true _ _).mp isLater
      rw [isGeneration, Option.isSome_some]

/-- A reply that names what it must and presents the claim commits as its end says. -/
theorem ReplyEnd.commits {now : Int} {pin : Option PinAdvance} {original : MessageRow}
    (replyEnd : ReplyEnd runtime answers args now journal pin original after result)
    (named : args.messageId ≠ "" ∧ args.claimToken ≠ "" ∧ args.requester ≠ "" ∧
      args.sessionId ≠ "") (found : journal.messages.find? args.messageId = some original)
    (verified : verifyPin answers args original = .ok pin)
    (presents : PresentsClaim args pin original) :
    recordInteractiveReply runtime answers args now journal = .ok (after, result) := by
  simp only [recordInteractiveReply, require_bind_ok]
  refine ⟨named, ?_⟩
  rw [found]
  simp only [require_bind_ok, bind_ok (verifyPin _ _ _)]
  refine ⟨presents.recipient, presents.interactive, pin, verified,
    presents.claimed named.2.1 named.2.2.2, presents.session, presents.generation,
    presents.token, ?_⟩
  cases replyEnd with
  | repeated existing completed stored same committed =>
      rw [completed, stored]
      simp only [require_bind_ok, bind_ok (commitAcceptedReply _ _ _ _)]
      exact ⟨same.replyId, ⟨same.sender, same.text, same.hash⟩, after, committed, rfl⟩
  | keptLate held =>
      rw [held]
      rfl
  | expired executing isExpired =>
      rw [executing]
      exact if_pos isExpired
  | known existing executing isLive stored sameHash committed =>
      rw [executing]
      refine (if_neg (Bool.eq_false_iff.mp isLive)).trans ?_
      have found := stored
      unfold InteractiveReplyArgs.effectiveReplyId at found
      rw [found]
      simp only [require_bind_ok, bind_ok (commitAcceptedReply _ _ _ _)]
      exact ⟨sameHash, after, committed, rfl⟩
  | accepted executing isLive isFree committed =>
      rw [executing]
      refine (if_neg (Bool.eq_false_iff.mp isLive)).trans ?_
      have free := isFree
      unfold InteractiveReplyArgs.effectiveReplyId at free
      rw [free]
      simp only [bind_ok (commitAcceptedReply _ _ _ _)]
      exact ⟨after, committed, rfl⟩

/-- A reply without a pin touches no session table when it commits. -/
theorem commitAcceptedReply_none
    (succeeded : commitAcceptedReply answers none args journal = .ok after) : after = journal :=
  (Except.ok.inj succeeded).symm

end Triangle.LocalMessaging
