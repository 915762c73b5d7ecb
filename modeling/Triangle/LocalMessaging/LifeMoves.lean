import Triangle.LocalMessaging.Claims
import Triangle.LocalMessaging.Host

/-!
# What one host step does to one message

`LifeMove` says what a journal change can do to the phase of one message and to
its replies. Each journal function has one lemma here that names its moves.
-/

namespace Triangle.LocalMessaging

open Triangle.Std

/-- The phase of a message. -/
def Journal.phase? (journal : Journal) (messageId : String) : Option Phase :=
  (journal.messages.find? messageId).map MessageRow.phase

/-- The recipient type of a message. -/
def Journal.type? (journal : Journal) (messageId : String) : Option RecipientType :=
  (journal.messages.find? messageId).map MessageRow.recipientType

/-- `replyId` is a stored reply to the message. -/
def Journal.Replied (journal : Journal) (messageId replyId : String) : Prop :=
  ∃ reply, journal.replies.find? replyId = some reply ∧ reply.inReplyTo = messageId

/-- No reply to the message is new. -/
def NoNewReply (before after : Journal) (messageId : String) : Prop :=
  ∀ replyId, after.Replied messageId replyId → before.Replied messageId replyId

/-- The moves of one message. `completes` says who may finish a runner's work,
`reconciles` who may close a hold. -/
inductive LifeMove (completes reconciles : Prop) (messageId : String) (before after : Journal) :
    Prop
  | quiet (phase : after.phase? messageId = before.phase? messageId)
      (type : after.type? messageId = before.type? messageId)
      (replies : NoNewReply before after messageId)
  | queue (absent : before.phase? messageId = none)
      (queued : after.phase? messageId = some .queuedLocal)
      (replies : NoNewReply before after messageId)
  | claim (queued : before.phase? messageId = some .queuedLocal)
      (executing : after.phase? messageId = some .executing)
      (type : after.type? messageId = before.type? messageId)
      (replies : NoNewReply before after messageId)
  | hold (unfinished : before.phase? messageId = some .queuedLocal ∨
        before.phase? messageId = some .executing)
      (held : after.phase? messageId = some .held)
      (type : after.type? messageId = before.type? messageId)
      (replies : NoNewReply before after messageId)
  | complete (newReply : String) (executing : before.phase? messageId = some .executing)
      (completed : after.phase? messageId = some .completed)
      (type : after.type? messageId = before.type? messageId)
      (allowed : before.type? messageId = some .interactive ∨ completes)
      (replies : ∀ replyId, after.Replied messageId replyId →
        before.Replied messageId replyId ∨ replyId = newReply)
  | reconcile (newReply : String) (reconciled : reconciles)
      (held : before.phase? messageId = some .held)
      (closed : after.phase? messageId = some .completed ∨
        after.phase? messageId = some .failed)
      (type : after.type? messageId = before.type? messageId)
      (replies : ∀ replyId, after.Replied messageId replyId →
        before.Replied messageId replyId ∨
          (replyId = newReply ∧ after.phase? messageId = some .completed))
  | remove (finished : before.phase? messageId = some .completed ∨
        before.phase? messageId = some .failed)
      (absent : after.phase? messageId = none)
      (unreplied : ∀ replyId, ¬ after.Replied messageId replyId)

section

variable {completes reconciles : Prop} {messageId : String} {journal after : Journal}

theorem NoNewReply.of_replies_eq {before after : Journal} (same : after.replies = before.replies) :
    NoNewReply before after messageId := by
  intro replyId replied
  unfold Journal.Replied at replied ⊢
  rwa [← same]

theorem LifeMove.refl : LifeMove completes reconciles messageId journal journal :=
  .quiet rfl rfl fun _ replied => replied

variable {selected : MessageRow → Bool} {change : MessageRow → MessageRow} {row : MessageRow}
  {answers : RouteAnswers} {runtime : JournalRuntime} {envelope : Envelope} {now : Int}
  {reply : ReplyRow} {args : InteractiveReplyArgs}

variable {keeps : ∀ row, (change row).messageId = row.messageId} {options : SendOptions}
  {replyId requester claimed : String} {duplicate : Bool} {pin : Option PinAdvance}
  {request : ReconcileRequest}

/-- The message rows after an update. -/
theorem find?_updateMessages :
    (journal.updateMessages selected change keeps).messages.find? messageId =
      (journal.messages.find? messageId).map fun row =>
        if selected row then change row else row := by
  rw [Journal.updateMessages, Table.find?_update]

section

variable (found : journal.messages.find? messageId = some row)
include found

/-- The phase and the type of a message whose row is known. -/
theorem phase?_of_find? : journal.phase? messageId = some row.phase := by
  rw [Journal.phase?, found, Option.map_some]

theorem type?_of_find? : journal.type? messageId = some row.recipientType := by
  rw [Journal.type?, found, Option.map_some]

end

/-- Rows that read the same have the same phase and type. -/
theorem LifeMove.of_find?_eq
    (same : after.messages.find? messageId = journal.messages.find? messageId)
    (replies : NoNewReply journal after messageId) :
    LifeMove completes reconciles messageId journal after :=
  .quiet (by rw [Journal.phase?, same, Journal.phase?]) (by rw [Journal.type?, same, Journal.type?])
    replies

/-- An update whose selected rows keep their type and stay, are claimed or are held. -/
theorem updateMessages_move (keeps : ∀ row, (change row).messageId = row.messageId)
    (moved : ∀ row, journal.messages.find? messageId = some row → selected row = true →
      (change row).recipientType = row.recipientType ∧
        ((change row).phase = row.phase ∨
          (row.phase = .queuedLocal ∧ (change row).phase = .executing) ∨
          ((row.phase = .queuedLocal ∨ row.phase = .executing) ∧ (change row).phase = .held))) :
    LifeMove completes reconciles messageId journal
      (journal.updateMessages selected change keeps) := by
  have read : (journal.updateMessages selected change keeps).messages.find? messageId = _ :=
    find?_updateMessages
  have replies : NoNewReply journal (journal.updateMessages selected change keeps) messageId :=
    .of_replies_eq rfl
  cases found : journal.messages.find? messageId with
  | none =>
      rw [found] at read
      exact .of_find?_eq (read.trans found.symm) replies
  | some row =>
      rw [found, Option.map_some] at read
      by_cases chosen : selected row = true
      · rw [if_pos chosen] at read
        have phase := phase?_of_find? found
        have newPhase := phase?_of_find? read
        obtain ⟨sameType, move⟩ := moved row found chosen
        have type : (journal.updateMessages selected change keeps).type? messageId =
            journal.type? messageId := by
          rw [type?_of_find? read, type?_of_find? found, sameType]
        rcases move with same | ⟨queued, executing⟩ | ⟨unfinished, held⟩
        · exact .quiet (by rw [newPhase, phase, same]) type replies
        · exact .claim (by rw [phase, queued]) (by rw [newPhase, executing]) type replies
        · refine .hold ?_ (by rw [newPhase, held]) type replies
          rcases unfinished with queued | executing
          · exact .inl (by rw [phase, queued])
          · exact .inr (by rw [phase, executing])
      · rw [if_neg chosen] at read
        exact .of_find?_eq (read.trans found.symm) replies

/-- A change of one row that keeps its type and stays, is claimed or is held. -/
theorem setMessage_lifeMove {changed : String} (found : journal.messages.find? changed = some row)
    (sameType : (change row).recipientType = row.recipientType)
    (moved : (change row).phase = row.phase ∨
      (row.phase = .queuedLocal ∧ (change row).phase = .executing) ∨
      ((row.phase = .queuedLocal ∨ row.phase = .executing) ∧ (change row).phase = .held)) :
    LifeMove completes reconciles messageId journal
      (journal.setMessage changed change keeps) := by
  refine updateMessages_move keeps fun other foundOther selectedOther => ?_
  -- The row selected by its id is the one that was read.
  obtain ⟨-, otherId⟩ := Table.find?_some foundOther
  rw [← otherId, of_decide_eq_true selectedOther, found] at foundOther
  obtain rfl := Option.some.inj foundOther
  exact ⟨sameType, moved⟩

/-- A new reply is the only new one. -/
theorem replied_upsert {row : ReplyRow}
    (replied : { journal with replies := journal.replies.upsert row }.Replied messageId replyId) :
    journal.Replied messageId replyId ∨ (replyId = row.messageId ∧ row.inReplyTo = messageId) := by
  obtain ⟨reply, found, correlated⟩ := replied
  rw [Table.find?_upsert] at found
  by_cases same : replyId = row.messageId
  · rw [if_pos same] at found
    obtain rfl := Option.some.inj found
    exact .inr ⟨same, correlated⟩
  · rw [if_neg same] at found
    exact .inl ⟨reply, found, correlated⟩

/-- A pin sets two columns. -/
theorem pinReply_columns {inserted row : MessageRow}
    (succeeded : pinReply answers options inserted = .ok row) :
    row = { inserted with
      replyRouteKey := row.replyRouteKey
      senderProvenanceJson := row.senderProvenanceJson } := by
  unfold pinReply at succeeded
  split at succeeded
  · obtain rfl := Except.ok.inj succeeded
    rfl
  · simp only [require_bind_ok, bind_ok (RouteAnswers.pinInTransaction _ _)] at succeeded
    obtain ⟨-, -, -, key, -, rest⟩ := succeeded
    obtain rfl := Except.ok.inj rest
    rfl

/-- A send that returns changes nothing, or adds the row of a new message. -/
theorem recordSend_added {result : MessageRow × Bool}
    (succeeded : recordSend runtime answers envelope options journal = .ok (after, result)) :
    after = journal ∨ ∃ row evidence,
      after = { journal with
        messages := journal.messages.upsert row
        pairAdmissions := evidence } ∧
      row = { queuedRow runtime envelope options with
        replyRouteKey := row.replyRouteKey
        senderProvenanceJson := row.senderProvenanceJson } ∧
      journal.messages.find? row.messageId = none := by
  simp only [recordSend, require_bind_ok] at succeeded
  obtain ⟨-, -, rest⟩ := succeeded
  split at rest
  · simp only [require_bind_ok] at rest
    obtain ⟨rfl, -⟩ := pair_ok rest.2
    exact .inl rfl
  next isFree =>
    simp only [require_bind_ok, bind_ok (pinReply _ _ _)] at rest
    obtain ⟨-, row, pinned, -, -, rest⟩ := rest
    obtain ⟨rfl, -⟩ := pair_ok rest
    have columns := pinReply_columns pinned
    exact .inr ⟨row, _, rfl, columns, by rw [columns]; exact isFree⟩

theorem recordSend_move {result : MessageRow × Bool}
    (succeeded : recordSend runtime answers envelope options journal = .ok (after, result)) :
    LifeMove completes reconciles messageId journal after := by
  rcases recordSend_added succeeded with rfl | ⟨row, evidence, rfl, columns, isFree⟩
  · exact .refl
  by_cases same : messageId = row.messageId
  · refine .queue ?_ ?_ (.of_replies_eq rfl)
    · rw [Journal.phase?, same]
      exact congrArg _ isFree
    · rw [Journal.phase?, Table.find?_upsert, if_pos same, Option.map_some, columns]
      rfl
  · refine .of_find?_eq ?_ (.of_replies_eq rfl)
    rw [Table.find?_upsert, if_neg same]

/-- The row of a runner's reply. -/
def runnerReplyRow (runtime : JournalRuntime) (envelope : Envelope) (now : Int) : ReplyRow where
  messageId := envelope.messageId
  sender := envelope.sender
  recipient := envelope.recipient
  requestId := envelope.requestId
  inReplyTo := envelope.inReplyTo.getD ""
  text := envelope.text
  metadataJson := envelope.metadata
  canonicalHash := runtime.computeEnvelopeHash envelope
  consumed := false
  createdAt := now
  updatedAt := now

section

variable (succeeded : recordReplySync runtime envelope now journal = .ok (after, reply, duplicate))
include succeeded

/-- A stored reply changes nothing, or adds one row under its own id. -/
theorem recordReplySync_ok :
    after = journal ∨
      (journal.replies.find? envelope.messageId = none ∧ reply = runnerReplyRow runtime envelope now ∧
        after = { journal with replies := journal.replies.upsert reply }) := by
  simp only [recordReplySync, require_bind_ok] at succeeded
  obtain ⟨-, rest⟩ := succeeded
  split at rest
  · cases rest
  · simp only [require_bind_ok] at rest
    obtain ⟨-, -, -, rest⟩ := rest
    split at rest
    · simp only [require_bind_ok] at rest
      obtain ⟨rfl, -⟩ := pair_ok rest.2
      exact .inl rfl
    next free =>
      obtain ⟨rfl, same⟩ := pair_ok rest
      obtain ⟨rfl, -⟩ := Prod.mk.inj same
      exact .inr ⟨free, rfl, rfl⟩

/-- Storing replies does not touch the messages. -/
theorem recordReplySync_messages : after.messages = journal.messages := by
  rcases recordReplySync_ok succeeded with rfl | ⟨-, -, rfl⟩
  · rfl
  · rfl

/-- The replies that a stored reply may add. -/
theorem recordReplySync_replied (replied : after.Replied messageId replyId) :
    journal.Replied messageId replyId ∨
      (replyId = envelope.messageId ∧ envelope.inReplyTo.getD "" = messageId ∧
        journal.replies.find? envelope.messageId = none) := by
  rcases recordReplySync_ok succeeded with rfl | ⟨free, rfl, rfl⟩
  · exact .inl replied
  · rcases replied_upsert replied with old | ⟨isNew, isReply⟩
    · exact .inl old
    · exact .inr ⟨isNew, isReply, free⟩

end

/-- An update of the one row under `closed` after replies were stored. -/
theorem find?_finished {replied : Journal}
    (isUpdate : replied.updateMessages selected change keeps = after)
    (messagesKept : replied.messages = journal.messages) {closed : String}
    (found : journal.messages.find? closed = some row) (chosen : selected row = true)
    (byId : ∀ other, selected other = true → other.messageId = closed) (messageId : String) :
    after.messages.find? messageId =
      if messageId = closed then some (change row) else journal.messages.find? messageId := by
  rw [← isUpdate, find?_updateMessages, messagesKept]
  by_cases same : messageId = closed
  · subst same
    rw [if_pos rfl, found, Option.map_some, if_pos chosen]
  · rw [if_neg same]
    cases foundOther : journal.messages.find? messageId with
    | none => rfl
    | some other =>
        obtain ⟨-, otherId⟩ := Table.find?_some foundOther
        rw [Option.map_some, if_neg fun selectedOther => same (otherId ▸ byId other selectedOther)]

theorem completeExecutionWithReply_move
    (succeeded : completeExecutionWithReply runtime envelope now journal = .ok (after, reply))
    (allowed : envelope.inReplyTo = some messageId → completes) :
    LifeMove completes reconciles messageId journal after := by
  simp only [completeExecutionWithReply, require_bind_ok] at succeeded
  obtain ⟨correlated, rest⟩ := succeeded
  obtain ⟨inReplyTo, isReplyTo⟩ := Option.isSome_iff_exists.mp correlated
  rw [isReplyTo, Option.getD_some] at rest
  split at rest
  · cases rest
  next original found =>
    simp only [require_bind_ok, bind_ok (recordReplySync _ _ _ _)] at rest
    obtain ⟨-, active, sameReply, storedIfCompleted, ⟨replied, stored, duplicate⟩, recorded, rest⟩ :=
      rest
    obtain ⟨-, rfl⟩ := Table.find?_some found
    have messagesKept := recordReplySync_messages recorded
    split at rest
    next executing =>
      obtain ⟨isAfter, -⟩ := pair_ok rest
      have read := find?_finished isAfter messagesKept found (by simp [executing])
        (fun other selectedOther => by
          simp only [Bool.and_eq_true, decide_eq_true_eq] at selectedOther
          exact selectedOther.1)
        messageId
      have sameReplies : after.replies = replied.replies := by rw [← isAfter]; rfl
      by_cases same : messageId = original.messageId
      · subst same
        rw [if_pos rfl] at read
        refine .complete envelope.messageId ?_ ?_ ?_ (.inr (allowed isReplyTo)) ?_
        · rw [phase?_of_find? found, executing]
        · rw [phase?_of_find? read]
        · rw [type?_of_find? read, type?_of_find? found]
        · rintro replyId ⟨reply, foundReply, isReply⟩
          rw [sameReplies] at foundReply
          rcases recordReplySync_replied recorded ⟨reply, foundReply, isReply⟩ with
            old | ⟨isNew, -, -⟩
          · exact .inl old
          · exact .inr isNew
      · rw [if_neg same] at read
        refine .of_find?_eq read ?_
        rintro replyId ⟨reply, foundReply, isReply⟩
        rw [sameReplies] at foundReply
        rcases recordReplySync_replied recorded ⟨reply, foundReply, isReply⟩ with
          old | ⟨-, correlatedNew, -⟩
        · exact old
        · rw [isReplyTo, Option.getD_some] at correlatedNew
          exact absurd correlatedNew.symm same
    next notExecuting =>
      obtain ⟨rfl, -⟩ := pair_ok rest
      refine .of_find?_eq (by rw [messagesKept]) ?_
      intro replyId nowReplied
      rcases recordReplySync_replied recorded nowReplied with old | ⟨-, -, free⟩
      · exact old
      · -- The reply of a completed record is stored, so its id is not free.
        have completed := active.resolve_left notExecuting
        obtain ⟨previous, isFirst⟩ := Option.isSome_iff_exists.mp (storedIfCompleted completed)
        have member : previous ∈ repliesTo journal original.messageId :=
          List.mem_of_head? isFirst
        have present := (Table.mem_select.mp member).1
        rw [sameReply previous (Option.mem_def.mpr isFirst), free] at present
        cases present

theorem claimInboxMessage_move {args : ClaimArgs} {result : Committed (Option ClaimReceipt)}
    (succeeded : claimInboxMessage args now journal = .ok (after, result)) :
    LifeMove completes reconciles messageId journal after := by
  obtain ⟨row, found, -, -, claimEnd⟩ := claimInboxMessage_ok succeeded
  cases claimEnd with
  | expired executing isExpired =>
      exact setMessage_lifeMove found rfl (.inr (.inr ⟨.inr executing, rfl⟩))
  | retried | refused => exact .refl
  | granted queued => exact setMessage_lifeMove found rfl (.inr (.inl ⟨queued, rfl⟩))

/-- Accepting a reply changes at most the claim generation. -/
theorem commitAcceptedReply_ok
    (succeeded : commitAcceptedReply answers pin args journal = .ok after) (messageId : String) :
    after.phase? messageId = journal.phase? messageId ∧
      after.type? messageId = journal.type? messageId ∧ after.replies = journal.replies := by
  unfold commitAcceptedReply at succeeded
  split at succeeded
  · obtain rfl := Except.ok.inj succeeded
    exact ⟨rfl, rfl, rfl⟩
  · simp only [bind_ok (RouteAnswers.advanceInTransaction _)] at succeeded
    obtain ⟨-, -, rest⟩ := succeeded
    obtain rfl := Except.ok.inj rest
    refine ⟨?_, ?_, rfl⟩
    · unfold Journal.phase?
      rw [find?_updateMessages]
      cases journal.messages.find? messageId with
      | none => rfl
      | some row => simp only [Option.map_some]; split <;> rfl
    · unfold Journal.type?
      rw [find?_updateMessages]
      cases journal.messages.find? messageId with
      | none => rfl
      | some row => simp only [Option.map_some]; split <;> rfl

theorem commitAcceptedReply_move
    (succeeded : commitAcceptedReply answers pin args journal = .ok after) :
    LifeMove completes reconciles messageId journal after := by
  obtain ⟨phase, type, replies⟩ := commitAcceptedReply_ok succeeded messageId
  exact .quiet phase type (.of_replies_eq replies)

theorem recordInteractiveReply_move {result : Committed (ReplyRow × Bool)}
    (succeeded : recordInteractiveReply runtime answers args now journal = .ok (after, result)) :
    LifeMove completes reconciles messageId journal after := by
  obtain ⟨original, pin, found, -, presents, replyEnd⟩ := recordInteractiveReply_ok succeeded
  cases replyEnd with
  | repeated existing completed stored same committed => exact commitAcceptedReply_move committed
  | known existing executing isLive stored sameHash committed =>
      exact commitAcceptedReply_move committed
  | keptLate held => exact setMessage_lifeMove found rfl (.inl rfl)
  | expired executing isExpired =>
      exact setMessage_lifeMove found rfl (.inr (.inr ⟨.inr executing, rfl⟩))
  | accepted executing isLive isFree committed =>
      obtain ⟨replied, isReplied, committed⟩ : ∃ replied,
          { journal with
            replies := journal.replies.upsert
              (interactiveReplyRow runtime args pin original now) }.setMessage args.messageId
            (·.answered now) (fun _ => rfl) = replied ∧
          commitAcceptedReply answers pin args replied = .ok after := ⟨_, rfl, committed⟩
      obtain ⟨phase, type, replies⟩ := commitAcceptedReply_ok committed messageId
      obtain ⟨-, originalId⟩ := Table.find?_some found
      have read := find?_finished isReplied rfl found (decide_eq_true originalId)
        (fun _ selectedOther => of_decide_eq_true selectedOther) messageId
      rw [← isReplied] at replies
      by_cases same : messageId = args.messageId
      · subst same
        rw [if_pos rfl] at read
        refine .complete args.effectiveReplyId ?_ ?_ ?_ (.inl ?_) ?_
        · rw [phase?_of_find? found, executing]
        · rw [phase, phase?_of_find? read]
          rfl
        · rw [type, type?_of_find? read, type?_of_find? found]
          rfl
        · rw [type?_of_find? found, presents.interactive]
        · rintro replyId ⟨reply, foundReply, correlated⟩
          rw [replies] at foundReply
          rcases replied_upsert ⟨reply, foundReply, correlated⟩ with old | ⟨isNew, -⟩
          · exact .inl old
          · exact .inr isNew
      · rw [if_neg same] at read
        refine .quiet ?_ ?_ ?_
        · rw [phase, Journal.phase?, read, Journal.phase?]
        · rw [type, Journal.type?, read, Journal.type?]
        · rintro replyId ⟨reply, foundReply, correlated⟩
          rw [replies] at foundReply
          rcases replied_upsert ⟨reply, foundReply, correlated⟩ with old | ⟨-, isReply⟩
          · exact old
          · exact absurd isReply.symm same

theorem consumeReply_move (succeeded : consumeReply requester replyId now journal = .ok after) :
    LifeMove completes reconciles messageId journal after := by
  simp only [consumeReply, require_bind_ok] at succeeded
  obtain ⟨-, rest⟩ := succeeded
  split at rest
  · cases rest
  · simp only [require_bind_ok] at rest
    obtain rfl := Except.ok.inj rest.2
    refine .of_find?_eq rfl ?_
    rintro other ⟨reply, found, correlated⟩
    rw [Table.find?_update] at found
    obtain ⟨row, foundRow, rfl⟩ := Option.map_eq_some_iff.mp found
    refine ⟨row, foundRow, ?_⟩
    rw [← correlated]
    split <;> rfl

theorem holdExecuting_move :
    LifeMove completes reconciles messageId journal (holdExecuting now journal) :=
  updateMessages_move _ fun _ _ selectedRow =>
    ⟨rfl, .inr (.inr ⟨.inr (of_decide_eq_true selectedRow), rfl⟩)⟩

theorem reapExpiredClaims_move :
    LifeMove completes reconciles messageId journal (reapExpiredClaims requester now journal) := by
  refine updateMessages_move _ fun row _ selectedRow => ⟨rfl, .inr (.inr ⟨.inr ?_, rfl⟩)⟩
  simp only [Bool.and_eq_true, decide_eq_true_eq] at selectedRow
  exact selectedRow.1.1.2

theorem recordExecutionFailure_move {failed reason : String} {runtimeError : Option String} :
    LifeMove completes reconciles messageId journal
      (recordExecutionFailure failed reason runtimeError now journal) := by
  refine updateMessages_move _ fun row _ selectedRow => ⟨rfl, .inr (.inr ⟨?_, rfl⟩)⟩
  simp only [Bool.and_eq_true, Bool.or_eq_true, decide_eq_true_eq] at selectedRow
  exact selectedRow.2

/-- `holdExecution` is safe where its row is executing or held already. -/
theorem holdExecution_move {held reason : String} {lateResultText : Option String}
    (unfinished : journal.phase? held = some .executing ∨ journal.phase? held = some .held) :
    LifeMove completes reconciles messageId journal
      (holdExecution held reason lateResultText now journal) := by
  refine updateMessages_move _ fun row foundRow selectedRow => ⟨rfl, ?_⟩
  obtain ⟨-, rowId⟩ := Table.find?_some foundRow
  rw [← of_decide_eq_true selectedRow, rowId, phase?_of_find? foundRow] at unfinished
  rcases unfinished with executing | already
  · exact .inr (.inr ⟨.inr (Option.some.inj executing), rfl⟩)
  · exact .inl (Option.some.inj already).symm

theorem claimExecution_move {claim : Option MessageRow}
    (result : claimExecution claimed now journal = (after, claim)) :
    LifeMove completes reconciles messageId journal after := by
  have isUpdate : after = journal.updateMessages
      (fun row => row.messageId = claimed && row.phase = .queuedLocal &&
        row.recipientType = .runner)
      (fun row => { row with phase := .executing, updatedAt := now }) fun _ => rfl := by
    unfold claimExecution at result
    dsimp only at result
    split at result
    · split at result
      · exact (Prod.mk.inj result).1.symm
      · exact (Prod.mk.inj result).1.symm
    · exact (Prod.mk.inj result).1.symm
  subst isUpdate
  refine updateMessages_move _ fun row _ selectedRow => ⟨rfl, .inr (.inl ⟨?_, rfl⟩)⟩
  simp only [Bool.and_eq_true, decide_eq_true_eq] at selectedRow
  exact selectedRow.1.2

/-- A claim that was granted is an executing runner row under the claimed id. -/
theorem claimExecution_granted {claim : MessageRow}
    (result : claimExecution claimed now journal = (after, some claim)) :
    claim.messageId = claimed ∧ after.phase? claimed = some .executing ∧
      after.type? claimed = some .runner := by
  unfold claimExecution at result
  dsimp only at result
  generalize isUpdate : Journal.updateMessages _ _ _ _ = updated at result
  split at result
  next row found =>
    split at result
    next claimable =>
      obtain ⟨rfl, read⟩ := Prod.mk.inj result
      have changed := find?_finished isUpdate rfl found claimable
        (fun other selectedOther => by
          simp only [Bool.and_eq_true, decide_eq_true_eq] at selectedOther
          exact selectedOther.1.1)
        claimed
      simp only [Bool.and_eq_true, decide_eq_true_eq] at claimable
      rw [if_pos rfl] at changed
      rw [changed] at read
      refine ⟨?_, ?_, ?_⟩
      · rw [← Option.some.inj read]
        exact claimable.1.1
      · rw [phase?_of_find? changed]
      · rw [type?_of_find? changed, claimable.2]
    · cases (Prod.mk.inj result).2
  · cases (Prod.mk.inj result).2

theorem compact_move {now retentionMs : Int} :
    LifeMove completes reconciles messageId journal (compact runtime now retentionMs journal) := by
  have replies : NoNewReply journal (compact runtime now retentionMs journal) messageId := by
    rintro replyId ⟨reply, found, correlated⟩
    rw [compact, Table.find?_delete] at found
    exact ⟨reply, (Option.filter_eq_some_iff.mp found).1, correlated⟩
  cases found : journal.messages.find? messageId with
  | none =>
      refine .of_find?_eq ?_ replies
      rw [compact, Table.find?_delete, found]
      rfl
  | some row =>
      by_cases deleted : (compact runtime now retentionMs journal).messages.find? messageId = none
      · have absent : (compact runtime now retentionMs journal).phase? messageId = none := by
          rw [Journal.phase?, deleted, Option.map_none]
        rw [compact, Table.find?_delete, found, Option.filter_some] at deleted
        split at deleted
        · cases deleted
        next selectedRow =>
          simp only [Bool.not_eq_true', Bool.not_eq_false, Bool.and_eq_true, Bool.or_eq_true,
            decide_eq_true_eq, List.isEmpty_iff] at selectedRow
          obtain ⟨⟨finished, -⟩, noReply⟩ := selectedRow
          obtain ⟨-, rowId⟩ := Table.find?_some found
          refine .remove ?_ absent ?_
          · rw [phase?_of_find? found]
            exact finished.imp (congrArg some) (congrArg some)
          · rintro replyId ⟨reply, foundReply, isReply⟩
            obtain ⟨-, rfl⟩ := Table.find?_some foundReply
            have member : reply ∈ (compact runtime now retentionMs journal).replies.select
                (·.inReplyTo = row.messageId) :=
              Table.mem_select.mpr ⟨foundReply, decide_eq_true (isReply.trans rowId.symm)⟩
            exact List.not_mem_nil (noReply ▸ member)
      · refine .of_find?_eq ?_ replies
        obtain ⟨kept, read⟩ := Option.ne_none_iff_exists'.mp deleted
        rw [read]
        rw [compact, Table.find?_delete] at read
        exact (Option.filter_eq_some_iff.mp read).1.symm

/-- A record that passes the reconciliation checks is held. -/
theorem checkReconcileRecord_ok {lateText : Option String}
    (passed : checkReconcileRecord runtime request journal = .ok (row, lateText)) :
    journal.messages.find? request.messageId = some row ∧ row.phase = .held := by
  unfold checkReconcileRecord at passed
  split at passed
  · cases passed
  next found held =>
    simp only [require_bind_ok] at passed
    obtain ⟨-, isHeld, -, rest⟩ := passed
    have same : found = row := by
      split at rest
      · simp only [require_bind_ok] at rest
        exact (pair_ok rest.2.2.2.2.2).1
      · simp only [require_bind_ok] at rest
        exact (pair_ok rest.2.2).1
      · simp only [require_bind_ok] at rest
        exact (pair_ok rest.2.2).1
    subst same
    exact ⟨held, isHeld⟩

theorem reconcileMessage_move {outcome : ReconcileOutcome}
    (succeeded : reconcileMessage runtime request now journal = .ok (after, outcome))
    (allowed : reconciles) : LifeMove completes reconciles messageId journal after := by
  simp only [reconcileMessage, bind_ok (validateReconcileRequest _)] at succeeded
  obtain ⟨-, -, rest⟩ := succeeded
  split at rest
  · simp only [bind_ok (checkReconcileRetry _ _)] at rest
    obtain ⟨-, -, rest⟩ := rest
    obtain ⟨rfl, -⟩ := pair_ok rest
    exact .refl
  · simp only [bind_ok (checkReconcileRecord _ _ _)] at rest
    obtain ⟨⟨row, lateText⟩, passed, rest⟩ := rest
    obtain ⟨found, held⟩ := checkReconcileRecord_ok passed
    obtain ⟨-, rowId⟩ := Table.find?_some found
    dsimp only at rest
    generalize isReplied : (if request.action = .acceptLateResult then
      { journal with replies := journal.replies.upsert (lateReplyRow runtime request row lateText now) }
      else journal) = replied at rest
    generalize isClosed : replied.updateMessages _ _ _ = closed at rest
    obtain ⟨rfl, -⟩ := pair_ok rest
    have messagesKept : replied.messages = journal.messages := by
      rw [← isReplied]
      split <;> rfl
    have read := find?_finished isClosed messagesKept found (by simp [rowId, held])
      (fun other selectedOther => by
        simp only [Bool.and_eq_true, decide_eq_true_eq] at selectedOther
        exact selectedOther.1)
      messageId
    -- The one reply that may be new is the accepted late result.
    have newReply : ∀ replyId, closed.Replied messageId replyId →
        journal.Replied messageId replyId ∨ (replyId = lateReplyId request.reconcileId ∧
          messageId = request.messageId ∧ request.action = .acceptLateResult) := by
      rintro replyId ⟨reply, foundReply, isReply⟩
      rw [← isClosed] at foundReply
      change replied.replies.find? replyId = some reply at foundReply
      rw [← isReplied] at foundReply
      split at foundReply
      next accepts =>
        rcases replied_upsert ⟨reply, foundReply, isReply⟩ with old | ⟨isNew, correlated⟩
        · exact .inl old
        · exact .inr ⟨isNew, correlated.symm, accepts⟩
      · exact .inl ⟨reply, foundReply, isReply⟩
    by_cases same : messageId = request.messageId
    · subst same
      rw [if_pos rfl] at read
      have phase : closed.phase? request.messageId =
          some (if request.action = .markFailed then .failed else .completed) :=
        phase?_of_find? read
      refine .reconcile (lateReplyId request.reconcileId) allowed ?_ ?_ ?_ ?_
      · rw [phase?_of_find? found, held]
      · change closed.phase? request.messageId = _ ∨ closed.phase? request.messageId = _
        rw [phase]
        split
        · exact .inr rfl
        · exact .inl rfl
      · exact (type?_of_find? read).trans (type?_of_find? found).symm
      · intro replyId nowReplied
        rcases newReply replyId nowReplied with old | ⟨isNew, -, accepts⟩
        · exact .inl old
        · refine .inr ⟨isNew, phase.trans ?_⟩
          rw [accepts, if_neg (by decide)]
    · rw [if_neg same] at read
      refine .of_find?_eq read fun replyId nowReplied => ?_
      rcases newReply replyId nowReplied with old | ⟨-, isReply, -⟩
      · exact old
      · exact absurd isReply same

end

end Triangle.LocalMessaging
