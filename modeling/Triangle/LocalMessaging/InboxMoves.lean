import Triangle.LocalMessaging.LifeCycle
import Triangle.LocalMessaging.SentRows

/-!
# What a step of the claim protocol does to one message

The protocol is sends, looks into the inbox, claims, replies and reopens.
`InboxMove` lists what one of its steps can do to the row of a message that no
reply route is pinned to and to the replies to that message.
-/

namespace Triangle.LocalMessaging

open Triangle.Std Triangle.Std.Text Triangle.Semantics

/-- A step of the claim protocol. -/
def HostLabel.inClaimProtocol : HostLabel → Bool
  | .openService _ | .stop | .sendMessage _ _ _ | .listInbox _ _ | .claimInboxMessage _ _
  | .sendReply _ _ _ => true
  | _ => false

/-- The clock reading of a step of the claim protocol. -/
def HostLabel.clock? : HostLabel → Option Int
  | .openService now => some now
  | .sendMessage _ _ options => some options.now
  | .listInbox _ now => some now
  | .claimInboxMessage _ now => some now
  | .sendReply _ _ now => some now
  | _ => none

/-- A step of the claim protocol under a clock that starts at zero. -/
def HostLabel.ClaimStep (label : HostLabel) : Prop :=
  label.inClaimProtocol = true ∧ ∀ now ∈ label.clock?, 0 ≤ now

/-- No reply route is pinned to the message. -/
def MessageRow.Unpinned (row : MessageRow) : Prop :=
  row.replyRouteKey.filter (· ≠ "") = none

/-- The row as crash recovery leaves it. -/
def MessageRow.recovered (row : MessageRow) (now : Int) : MessageRow :=
  { row with
    phase := .held
    reason := some "crash_recovery"
    updatedAt := now }

/-- A change of the row of a message. -/
inductive RowMove (label : HostLabel) (messageId : String) (row : MessageRow) : MessageRow → Prop
  | claimed (args : ClaimArgs) (now : Int) (isLabel : label = .claimInboxMessage args now)
      (isMessage : args.messageId = messageId) (queued : row.phase = .queuedLocal)
      (interactive : row.recipientType = .interactive) :
      RowMove label messageId row (row.claimed args now)
  | expired (now : Int) (executing : row.phase = .executing) :
      RowMove label messageId row (row.expired now)
  | recovered (now : Int) (executing : row.phase = .executing) :
      RowMove label messageId row (row.recovered now)
  | late (text : String) (now : Int) (held : row.phase = .held) :
      RowMove label messageId row (row.late text now)
  | expiredLate (text : String) (now : Int) (executing : row.phase = .executing) :
      RowMove label messageId row ((row.expired now).late text now)

/-- What a protocol step does to a message and its replies. -/
inductive InboxMove (label : HostLabel) (messageId : String) (before after : Journal) : Prop
  | quiet (sameRow : after.messages.find? messageId = before.messages.find? messageId)
      (sameReplies : repliesTo after messageId = repliesTo before messageId)
  | sent (row : MessageRow) (absent : before.messages.find? messageId = none)
      (found : after.messages.find? messageId = some row) (queued : row.phase = .queuedLocal)
      (sameReplies : repliesTo after messageId = repliesTo before messageId)
  | moved (row changed : MessageRow) (found : before.messages.find? messageId = some row)
      (foundAfter : after.messages.find? messageId = some changed)
      (move : RowMove label messageId row changed)
      (sameReplies : repliesTo after messageId = repliesTo before messageId)
  | answered (answers : RouteAnswers) (args : InteractiveReplyArgs) (now : Int) (row : MessageRow)
      (reply : ReplyRow) (isLabel : label = .sendReply answers args now)
      (isMessage : args.messageId = messageId)
      (found : before.messages.find? messageId = some row)
      (foundAfter : after.messages.find? messageId = some (row.answered now))
      (presents : PresentsClaim args none row) (executing : row.phase = .executing)
      (isLive : row.leaseExpired now = false)
      (newReply : repliesTo after messageId = repliesTo before messageId ++ [reply])

section

variable {runtime : JournalRuntime} {label : HostLabel} {messageId : String}
  {journal after : Journal}

theorem InboxMove.refl : InboxMove label messageId journal journal :=
  .quiet rfl rfl

variable {change : MessageRow → MessageRow} {answers : RouteAnswers} {args : InteractiveReplyArgs}

variable {changed : String} {keeps : ∀ row, (change row).messageId = row.messageId}
  {row : MessageRow} {now : Int} {host : Host}

/-- The row of a message after another one was set. -/
theorem find?_setMessage :
    (journal.setMessage changed change keeps).messages.find? messageId =
      if messageId = changed then (journal.messages.find? messageId).map change
      else journal.messages.find? messageId := by
  rw [Journal.setMessage, find?_updateMessages]
  cases found : journal.messages.find? messageId with
  | none => simp
  | some row =>
      obtain ⟨-, rowId⟩ := Table.find?_some found
      rw [Option.map_some, Option.map_some]
      by_cases same : messageId = changed
      · rw [if_pos (decide_eq_true (rowId.trans same)), if_pos same]
      · rw [if_neg fun isSame => same (rowId.symm.trans (of_decide_eq_true isSame)), if_neg same]

/-- Setting one row moves that message and no other. -/
theorem setMessage_move (found : journal.messages.find? changed = some row)
    (move : changed = messageId → RowMove label messageId row (change row)) :
    InboxMove label messageId journal (journal.setMessage changed change keeps) := by
  by_cases same : messageId = changed
  · subst same
    refine .moved row (change row) found ?_ (move rfl) rfl
    rw [find?_setMessage, if_pos rfl, found, Option.map_some]
  · refine .quiet ?_ rfl
    rw [find?_setMessage, if_neg same]

/-- An update that moves each row it selects. -/
theorem updateMessages_inboxMove {selected : MessageRow → Bool}
    (move : ∀ row, selected row = true → RowMove label messageId row (change row)) :
    InboxMove label messageId journal (journal.updateMessages selected change keeps) := by
  cases found : journal.messages.find? messageId with
  | none =>
      refine .quiet ?_ rfl
      rw [find?_updateMessages, found, Option.map_none]
  | some row =>
      by_cases chosen : selected row = true
      · refine .moved row (change row) found ?_ (move row chosen) rfl
        rw [find?_updateMessages, found, Option.map_some, if_pos chosen]
      · refine .quiet ?_ rfl
        rw [find?_updateMessages, found, Option.map_some, if_neg chosen]

theorem recordSend_inboxMove {envelope : Envelope} {options : SendOptions}
    {result : MessageRow × Bool}
    (succeeded : recordSend runtime answers envelope options journal = .ok (after, result)) :
    InboxMove label messageId journal after := by
  rcases recordSend_added succeeded with rfl | ⟨row, evidence, rfl, columns, isFree⟩
  · exact .refl
  by_cases same : messageId = row.messageId
  · refine .sent row ?_ ?_ (by rw [columns]; rfl) rfl
    · rw [same]
      exact isFree
    · rw [Table.find?_upsert, if_pos same]
  · refine .quiet ?_ rfl
    rw [Table.find?_upsert, if_neg same]

theorem claimInboxMessage_inboxMove {args : ClaimArgs} {result : Committed (Option ClaimReceipt)}
    (isLabel : label = .claimInboxMessage args now)
    (succeeded : claimInboxMessage args now journal = .ok (after, result)) :
    InboxMove label messageId journal after := by
  obtain ⟨row, found, -, interactive, claimEnd⟩ := claimInboxMessage_ok succeeded
  cases claimEnd with
  | expired executing => exact setMessage_move found fun _ => .expired now executing
  | retried | refused => exact .refl
  | granted queued =>
      exact setMessage_move found fun isMessage =>
        .claimed args now isLabel isMessage queued interactive

/-- A reply to an unpinned message needs no route. -/
theorem verifyPin_unpinned (unpinned : row.Unpinned) : verifyPin answers args row = .ok none := by
  unfold verifyPin
  rw [unpinned]

/-- An accepted reply completes its message and comes last among the replies to it. -/
theorem accepted_unpinned (found : journal.messages.find? args.messageId = some row)
    (isFree : journal.replies.find? args.effectiveReplyId = none)
    (committed : commitAcceptedReply answers none args
      ({ journal with
          replies := journal.replies.upsert
            (interactiveReplyRow runtime args none row now) }.setMessage args.messageId
        (·.answered now) fun _ => rfl) = .ok after) :
    after.messages.find? args.messageId = some (row.answered now) ∧
      repliesTo after args.messageId =
        repliesTo journal args.messageId ++ [interactiveReplyRow runtime args none row now] := by
  rw [commitAcceptedReply_none committed]
  refine ⟨find?_setMessage.trans ((if_pos rfl).trans ?_), ?_⟩
  · change (journal.messages.find? args.messageId).map _ = _
    rw [found, Option.map_some]
  · change (journal.replies.upsert _).select _ = _
    rw [Table.select_upsert_new isFree]
    exact congrArg _ (if_pos (decide_eq_true rfl))

theorem recordInteractiveReply_inboxMove {result : Committed (ReplyRow × Bool)}
    (isLabel : label = .sendReply answers args now)
    (unpinned : ∀ row, journal.messages.find? messageId = some row → row.Unpinned)
    (succeeded : recordInteractiveReply runtime answers args now journal = .ok (after, result)) :
    InboxMove label messageId journal after := by
  obtain ⟨row, pin, found, verified, presents, replyEnd⟩ := recordInteractiveReply_ok succeeded
  by_cases isMessage : args.messageId = messageId
  · obtain rfl : none = pin := by
      rw [verifyPin_unpinned (unpinned row (isMessage ▸ found))] at verified
      exact Except.ok.inj verified
    cases replyEnd with
    | repeated _ _ _ _ committed | known _ _ _ _ _ committed =>
        rw [commitAcceptedReply_none committed]
        exact .refl
    | keptLate held => exact setMessage_move found fun _ => .late args.text now held
    | expired executing =>
        exact setMessage_move found fun _ => .expiredLate args.text now executing
    | accepted executing isLive isFree committed =>
        obtain ⟨foundAfter, newReply⟩ := accepted_unpinned found isFree committed
        subst isMessage
        exact .answered answers args now row _ isLabel rfl found foundAfter presents executing
          isLive newReply
  · -- A reply to another message, whatever is pinned to that one.
    have other : ∀ {accepted : Journal}, commitAcceptedReply answers pin args accepted = .ok after →
        after.messages.find? messageId = accepted.messages.find? messageId ∧
          after.replies = accepted.replies := by
      intro accepted committed
      unfold commitAcceptedReply at committed
      split at committed
      · obtain rfl := Except.ok.inj committed
        exact ⟨rfl, rfl⟩
      · simp only [bind_ok (RouteAnswers.advanceInTransaction _)] at committed
        obtain ⟨-, -, rest⟩ := committed
        obtain rfl := Except.ok.inj rest
        refine ⟨?_, rfl⟩
        exact find?_setMessage.trans (if_neg (Ne.symm isMessage))
    cases replyEnd with
    | repeated _ _ _ _ committed | known _ _ _ _ _ committed =>
        obtain ⟨sameRow, sameReplies⟩ := other committed
        exact .quiet sameRow (by rw [repliesTo, sameReplies, repliesTo])
    | keptLate | expired => exact setMessage_move found fun same => absurd same isMessage
    | accepted executing isLive isFree committed =>
        obtain ⟨sameRow, sameReplies⟩ := other committed
        refine .quiet ?_ ?_
        · rw [sameRow]
          exact find?_setMessage.trans (if_neg (Ne.symm isMessage))
        · rw [repliesTo, sameReplies]
          change (journal.replies.upsert _).select _ = _
          rw [Table.select_upsert_new isFree]
          refine (congrArg _ (if_neg ?_)).trans (List.append_nil _)
          exact fun same => isMessage (of_decide_eq_true same)

theorem commit_inboxMove {α : Type} {result : Outcome (Journal × α)}
    (moved : ∀ journal value, result = .ok (journal, value) →
      InboxMove label messageId host.journal journal) :
    InboxMove label messageId host.journal (host.commit result).journal := by
  unfold Host.commit
  split
  next journal value => exact moved journal value rfl
  · exact .refl

theorem serveStep_inboxMove (isProtocol : label.inClaimProtocol = true)
    (unpinned : ∀ row, host.journal.messages.find? messageId = some row → row.Unpinned) :
    InboxMove label messageId host.journal (serveStep runtime host label).journal := by
  cases label with
  | openService | stop => exact .refl
  | sendMessage answers envelope options =>
      exact commit_inboxMove fun _ _ succeeded => recordSend_inboxMove succeeded
  | listInbox requester now =>
      refine updateMessages_inboxMove fun row chosen => .expired now ?_
      simp only [Bool.and_eq_true, decide_eq_true_eq] at chosen
      exact chosen.1.1.2
  | claimInboxMessage args now =>
      exact commit_inboxMove fun _ _ succeeded => claimInboxMessage_inboxMove rfl succeeded
  | sendReply answers args now =>
      exact commit_inboxMove fun _ _ succeeded =>
        recordInteractiveReply_inboxMove rfl unpinned succeeded
  | _ => cases isProtocol

/-- A protocol step does one of these to a message that no route is pinned to. -/
theorem hostStep_inboxMove (runtime : JournalRuntime) (isProtocol : label.inClaimProtocol = true)
    (unpinned : ∀ row, host.journal.messages.find? messageId = some row → row.Unpinned) :
    InboxMove label messageId host.journal (hostStep runtime host label).journal := by
  unfold hostStep
  split
  · exact .refl
  next now _ =>
    exact updateMessages_inboxMove fun row chosen => .recovered now (of_decide_eq_true chosen)
  · cases isProtocol
  · cases isProtocol
  · exact serveStep_inboxMove isProtocol unpinned
  · exact .refl

end

end Triangle.LocalMessaging
