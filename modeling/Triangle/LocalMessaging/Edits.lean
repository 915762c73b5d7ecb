import Triangle.LocalMessaging.LifeMoves

/-!
# The edits of a step

Whatever a step calls, it changes the journal by few kinds of edits: a message or a reply comes
under a free id, a message is updated in columns that its send does not write, a reply is
consumed, the audit gets a row, and compaction deletes. `hostStep_edits` says so once; what no
edit breaks then holds of every step by induction over `Edits`.
-/

namespace Triangle.LocalMessaging

open Triangle.Std

/-- The row as its send wrote it. -/
def MessageRow.asSent (row : MessageRow) : MessageRow :=
  { row with
    phase := .queuedLocal
    updatedAt := row.createdAt
    reason := none
    runtimeError := none
    lateResultText := none
    claimToken := none
    claimSessionId := none
    claimGeneration := none
    claimOperationId := none
    leaseExpiresAt := none }

/-- The message that a step may add. -/
def HostLabel.addsMessage : HostLabel → String → Prop
  | .sendMessage _ envelope _, messageId => messageId = envelope.messageId
  | _, _ => False

/-- The reply that a step may add. -/
def HostLabel.addsReply : HostLabel → String → Prop
  | .sendReply _ args _, replyId => replyId = args.effectiveReplyId
  | .runnerCompleted _ newId _ _ _, replyId => replyId = newId
  | .reconcileMessage request _, replyId =>
      validateReconcileRequest request = .ok () ∧ replyId = lateReplyId request.reconcileId
  | _, _ => False

/-- The message row that a step may add. -/
def HostLabel.NewMessage (runtime : JournalRuntime) : HostLabel → MessageRow → Prop
  | .sendMessage _ envelope options, row =>
      row = { queuedRow runtime envelope options with
        replyRouteKey := row.replyRouteKey
        senderProvenanceJson := row.senderProvenanceJson }
  | _, _ => False

/-- The reply row that a step may add. -/
def HostLabel.NewReply (runtime : JournalRuntime) (host : Host) : HostLabel → ReplyRow → Prop
  | .sendReply _ args now, reply =>
      ∃ original pin, host.journal.messages.find? args.messageId = some original ∧
        reply = interactiveReplyRow runtime args pin original now
  | .runnerCompleted messageId replyId text metadata now, reply =>
      ∃ job, host.job? messageId false = some job ∧
        reply = runnerReplyRow runtime (job.replyEnvelope replyId text metadata) now
  | .reconcileMessage request now, reply =>
      ∃ row lateText, host.journal.messages.find? request.messageId = some row ∧
        reply = lateReplyRow runtime request row lateText now
  | _, _ => False

section

variable (runtime : JournalRuntime) (host : Host) (label : HostLabel)

/-- The edits of a step with this label from this host. -/
inductive Edits : Journal → Journal → Prop
  | refl {journal : Journal} : Edits journal journal
  | trans {first second third : Journal} (before : Edits first second)
      (next : Edits second third) : Edits first third
  | update {journal : Journal} {selected : MessageRow → Bool} {change : MessageRow → MessageRow}
      {keeps : ∀ row, (change row).messageId = row.messageId}
      (sameSend : ∀ row, (change row).asSent = row.asSent) :
      Edits journal (journal.updateMessages selected change keeps)
  | send {journal : Journal} (row : MessageRow) (evidence : Table PairAdmission.messageId)
      (isNew : label.NewMessage runtime row)
      (isFree : host.journal.messages.find? row.messageId = none) :
      Edits journal { journal with
        messages := journal.messages.upsert row
        pairAdmissions := evidence }
  | reply {journal : Journal} (row : ReplyRow) (isNew : label.NewReply runtime host row)
      (isNamed : label.addsReply row.messageId)
      (isFree : host.journal.replies.find? row.messageId = none) :
      Edits journal { journal with replies := journal.replies.upsert row }
  | consume {journal : Journal} (replyId : String) (now : Int) :
      Edits journal { journal with
        replies := journal.replies.update (·.messageId = replyId)
          (fun row => { row with consumed := true, updatedAt := now }) fun _ _ => rfl }
  | compact {journal : Journal} (now retentionMs : Int) (isLabel : label = .compact now retentionMs) :
      Edits journal (compact runtime now retentionMs journal)
  | audit {journal : Journal} (row : ReconciliationRow)
      (isFree : journal.reconciliations.find? row.reconcileId = none) :
      Edits journal { journal with reconciliations := journal.reconciliations.upsert row }

end

section

variable {runtime : JournalRuntime} {host : Host} {label : HostLabel} {answers : RouteAnswers}
  {now : Int} {journal after : Journal}

variable {options : SendOptions} {envelope : Envelope} {args : InteractiveReplyArgs}

theorem recordSend_edits {result : MessageRow × Bool}
    (isLabel : label = .sendMessage answers envelope options)
    (succeeded : recordSend runtime answers envelope options host.journal = .ok (after, result)) :
    Edits runtime host label host.journal after := by
  subst isLabel
  rcases recordSend_added succeeded with rfl | ⟨row, evidence, rfl, columns, isFree⟩
  · exact .refl
  · exact .send row evidence columns isFree

theorem completeExecutionWithReply_edits {reply : ReplyRow}
    (isNew : label.NewReply runtime host (runnerReplyRow runtime envelope now))
    (isNamed : label.addsReply envelope.messageId)
    (succeeded : completeExecutionWithReply runtime envelope now host.journal = .ok (after, reply)) :
    Edits runtime host label host.journal after := by
  simp only [completeExecutionWithReply, require_bind_ok] at succeeded
  obtain ⟨-, rest⟩ := succeeded
  split at rest
  · cases rest
  · simp only [require_bind_ok, bind_ok (recordReplySync _ _ _ _)] at rest
    obtain ⟨-, -, -, -, ⟨replied, stored, duplicate⟩, recorded, rest⟩ := rest
    have first : Edits runtime host label host.journal replied := by
      rcases recordReplySync_ok recorded with rfl | ⟨isFree, rfl, rfl⟩
      · exact .refl
      · exact .reply _ isNew isNamed isFree
    split at rest
    · obtain ⟨rfl, -⟩ := pair_ok rest
      exact first.trans (.update fun _ => rfl)
    · obtain ⟨rfl, -⟩ := pair_ok rest
      exact first

theorem consumeReply_edits {requester replyId : String}
    (succeeded : consumeReply requester replyId now journal = .ok after) :
    Edits runtime host label journal after := by
  simp only [consumeReply, require_bind_ok] at succeeded
  obtain ⟨-, rest⟩ := succeeded
  split at rest
  · cases rest
  · simp only [require_bind_ok] at rest
    obtain rfl := Except.ok.inj rest.2
    exact .consume replyId now

theorem claimExecution_edits {messageId : String} :
    Edits runtime host label journal (claimExecution messageId now journal).1 := by
  unfold claimExecution
  dsimp only
  split
  · split
    · exact .update fun _ => rfl
    · exact .update fun _ => rfl
  · exact .update fun _ => rfl

theorem claimInboxMessage_edits {args : ClaimArgs} {result : Committed (Option ClaimReceipt)}
    (succeeded : claimInboxMessage args now journal = .ok (after, result)) :
    Edits runtime host label journal after := by
  obtain ⟨row, -, -, -, claimEnd⟩ := claimInboxMessage_ok succeeded
  cases claimEnd with
  | expired | granted => exact .update fun _ => rfl
  | retried | refused => exact .refl

theorem commitAcceptedReply_edits {pin : Option PinAdvance}
    (succeeded : commitAcceptedReply answers pin args journal = .ok after) :
    Edits runtime host label journal after := by
  unfold commitAcceptedReply at succeeded
  split at succeeded
  · obtain rfl := Except.ok.inj succeeded
    exact .refl
  · simp only [bind_ok (RouteAnswers.advanceInTransaction _)] at succeeded
    obtain ⟨-, -, rest⟩ := succeeded
    obtain rfl := Except.ok.inj rest
    exact .update fun _ => rfl

theorem recordInteractiveReply_edits {result : Committed (ReplyRow × Bool)}
    (isLabel : label = .sendReply answers args now)
    (succeeded : recordInteractiveReply runtime answers args now host.journal =
      .ok (after, result)) : Edits runtime host label host.journal after := by
  subst isLabel
  obtain ⟨original, pin, found, -, -, replyEnd⟩ := recordInteractiveReply_ok succeeded
  cases replyEnd with
  | repeated existing completed stored same committed => exact commitAcceptedReply_edits committed
  | known existing executing isLive stored sameHash committed =>
      exact commitAcceptedReply_edits committed
  | keptLate | expired => exact .update fun _ => rfl
  | accepted executing isLive isFree committed =>
      refine .trans ?_ (commitAcceptedReply_edits committed)
      refine .trans ?_ (.update fun _ => rfl)
      exact .reply (interactiveReplyRow runtime args pin original now)
        ⟨original, pin, found, rfl⟩ rfl isFree

/-- A late result is accepted under a free id. -/
theorem reconcileMessage_edits {request : ReconcileRequest} {outcome : ReconcileOutcome}
    (isLabel : label = .reconcileMessage request now)
    (succeeded : reconcileMessage runtime request now host.journal = .ok (after, outcome)) :
    Edits runtime host label host.journal after := by
  subst isLabel
  simp only [reconcileMessage, bind_ok (validateReconcileRequest _)] at succeeded
  obtain ⟨⟨⟩, isValid, rest⟩ := succeeded
  split at rest
  · simp only [bind_ok (checkReconcileRetry _ _)] at rest
    obtain ⟨-, -, rest⟩ := rest
    obtain ⟨rfl, -⟩ := pair_ok rest
    exact .refl
  next isFresh =>
    simp only [bind_ok (checkReconcileRecord _ _ _)] at rest
    obtain ⟨⟨row, lateText⟩, checked, rest⟩ := rest
    dsimp only at rest
    generalize isReplied : ite (request.action = .acceptLateResult) _ _ = replied at rest
    generalize isClosed : replied.updateMessages _ _ _ = closed at rest
    obtain ⟨rfl, -⟩ := pair_ok rest
    have first : Edits runtime host (.reconcileMessage request now) host.journal replied := by
      rw [← isReplied]
      split
      next accepts =>
        have isFree : host.journal.replies.find? (lateReplyId request.reconcileId) = none := by
          unfold checkReconcileRecord at checked
          split at checked
          · cases checked
          · simp only [require_bind_ok, accepts, Option.isNone_iff_eq_none] at checked
            exact checked.2.2.2.2.2.2.2.1
        exact .reply _ ⟨row, lateText, (checkReconcileRecord_ok checked).1, rfl⟩ ⟨isValid, rfl⟩
          isFree
      · exact .refl
    have edited : Edits runtime host (.reconcileMessage request now) host.journal closed :=
      isClosed ▸ first.trans (.update fun _ => rfl)
    refine edited.trans (.audit _ ?_)
    rw [← isClosed, ← isReplied]
    split
    · exact isFresh
    · exact isFresh

theorem commit_edits {α : Type} {result : Outcome (Journal × α)}
    (edited : ∀ journal value, result = .ok (journal, value) →
      Edits runtime host label host.journal journal) :
    Edits runtime host label host.journal (host.commit result).journal := by
  unfold Host.commit
  split
  next journal value => exact edited journal value rfl
  · exact .refl

theorem serveStep_edits :
    Edits runtime host label host.journal (serveStep runtime host label).journal := by
  cases label with
  | openService | openOwner | stop | reconcileMessage => exact .refl
  | admissionFailure | listInbox | recoverQueued => exact .update fun _ => rfl
  | sendMessage answers envelope options =>
      exact commit_edits fun _ _ succeeded => recordSend_edits rfl succeeded
  | claimInboxMessage args now =>
      exact commit_edits fun _ _ succeeded => claimInboxMessage_edits succeeded
  | sendReply answers args now =>
      exact commit_edits fun _ _ succeeded => recordInteractiveReply_edits rfl succeeded
  | compact now retentionMs => exact .compact now retentionMs rfl
  | consumeReply requester replyId now =>
      simp only [serveStep]
      split
      next succeeded => exact consumeReply_edits succeeded
      · exact .refl
  | claimExecution claimed now =>
      have edited : Edits runtime host (.claimExecution claimed now) host.journal
          (LocalMessaging.claimExecution claimed now host.journal).1 := claimExecution_edits
      simp only [serveStep]
      split
      next result =>
        rw [result] at edited
        exact edited
      next result =>
        rw [result] at edited
        exact edited
  | runnerCompleted completed replyId text metadata now =>
      simp only [serveStep]
      split
      · exact .refl
      next job isJob =>
        split
        next succeeded =>
          exact completeExecutionWithReply_edits ⟨job, isJob, rfl⟩ rfl succeeded
        · exact .refl
  | runnerHeld | runnerFailed | persistFailure =>
      simp only [serveStep]
      split
      · exact .refl
      · exact .update fun _ => rfl

/-- Every step changes the journal by edits. -/
theorem hostStep_edits :
    Edits runtime host label host.journal (hostStep runtime host label).journal := by
  unfold hostStep
  split
  · exact .refl
  · exact .update fun _ => rfl
  · split
    · exact .update fun _ => rfl
    · exact .refl
  · exact commit_edits fun _ _ succeeded => reconcileMessage_edits rfl succeeded
  · exact serveStep_edits
  · exact .refl

end

end Triangle.LocalMessaging
