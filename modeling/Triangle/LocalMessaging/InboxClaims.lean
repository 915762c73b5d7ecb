import Triangle.LocalMessaging.InboxMoves

/-!
# The interactive claim protocol

`ClaimState` says what the row of a message has to do with the claims granted in
the run so far: none yet, or exactly one, whose columns the row still carries. It
holds along every run of the protocol, and each clause of `ClaimProtocol` follows
from it or from what the row moves allow.
-/

namespace Triangle.LocalMessaging

open Triangle.Std Triangle.Std.Text Triangle.Semantics

/-- A claim that moved its message to executing. -/
structure Grant where
  args : ClaimArgs
  now : Int

/-- When the lease of a claim runs out. -/
def Grant.leaseExpiresAt (grant : Grant) : Int :=
  grant.now + grant.args.lease

section

variable (runtime : JournalRuntime) (messageId : String)

instance (host : Host) (label : HostLabel) : Decidable (ClaimsMessage runtime host label messageId) :=
  inferInstanceAs (Decidable (_ ∧ _))

/-- The claim of the message that a step grants. -/
def grant? (host : Host) (label : HostLabel) : Option Grant :=
  match label with
  | .claimInboxMessage args now =>
      if ClaimsMessage runtime host label messageId then some ⟨args, now⟩ else none
  | _ => none

/-- The claims of the message that are granted along `labels`, run from `host`. -/
def grants (host : Host) : List HostLabel → List Grant
  | [] => []
  | label :: rest =>
      (grant? runtime messageId host label).toList ++ grants (hostStep runtime host label) rest

end

/-- The row carries a claim. -/
structure MessageRow.Carries (row : MessageRow) (grant : Grant) : Prop where
  token : row.claimToken = some grant.args.claimToken
  session : row.claimSessionId = some grant.args.sessionId
  generation : row.claimGeneration = some grant.args.generation
  lease : row.leaseExpiresAt = some grant.leaseExpiresAt
  started : 0 ≤ grant.now
  phase : row.phase ≠ .queuedLocal

/-- The row of a message beside the claims granted so far. -/
inductive ClaimState (journal : Journal) (messageId : String) (granted : List Grant) : Prop
  | absent (missing : journal.messages.find? messageId = none) (noGrant : granted = [])
  | queued (row : MessageRow) (found : journal.messages.find? messageId = some row)
      (isQueued : row.phase = .queuedLocal) (noGrant : granted = [])
  | claimed (row : MessageRow) (grant : Grant)
      (found : journal.messages.find? messageId = some row) (carries : row.Carries grant)
      (isGrant : granted = [grant])
  | pinned (row : MessageRow) (found : journal.messages.find? messageId = some row)
      (isPinned : ¬ row.Unpinned)

section

variable {runtime : JournalRuntime} {label : HostLabel} {messageId : String} {host : Host}
  {granted : List Grant}

theorem RowMove.sameRoute {row changed : MessageRow} (move : RowMove label messageId row changed) :
    changed.replyRouteKey = row.replyRouteKey := by
  cases move <;> rfl

theorem InboxMove.sameRoute {before after : Journal} {row : MessageRow}
    (move : InboxMove label messageId before after)
    (found : before.messages.find? messageId = some row) :
    ∃ changed, after.messages.find? messageId = some changed ∧
      changed.replyRouteKey = row.replyRouteKey := by
  cases move with
  | quiet sameRow => exact ⟨row, sameRow.trans found, rfl⟩
  | sent _ absent => exact nomatch absent.symm.trans found
  | moved moving changed isFound foundAfter rowMove =>
      obtain rfl := Option.mem_unique isFound found
      exact ⟨changed, foundAfter, rowMove.sameRoute⟩
  | answered answers args now answering reply isLabel isMessage isFound foundAfter =>
      obtain rfl := Option.mem_unique isFound found
      exact ⟨_, foundAfter, rfl⟩

/-- The route of a message stays what its send made it. -/
theorem hostStep_sameRoute {row : MessageRow} (isProtocol : label.inClaimProtocol = true)
    (found : host.journal.messages.find? messageId = some row) :
    ∃ changed, (hostStep runtime host label).journal.messages.find? messageId = some changed ∧
      changed.replyRouteKey = row.replyRouteKey := by
  by_cases spares : label.sparesSends = true
  · have same : (hostStep runtime host label).journal.sent? messageId =
        host.journal.sent? messageId := (hostStep_keepsSends spares).sent messageId
    rw [Journal.sent?, Journal.sent?, found, Option.map_some, Option.map_eq_some_iff] at same
    obtain ⟨changed, foundAfter, sameSend⟩ := same
    have sameRoute : changed.asSent.replyRouteKey = row.asSent.replyRouteKey := by rw [sameSend]
    exact ⟨changed, foundAfter, sameRoute⟩
  · cases label with
    | sendMessage answers envelope options =>
        have moves : InboxMove (.sendMessage answers envelope options) messageId host.journal
            (hostStep runtime host (.sendMessage answers envelope options)).journal := by
          by_cases serving : host.mode = .serving
          · rw [hostStep_serving serving (by simp)]
            exact commit_inboxMove fun _ _ succeeded => recordSend_inboxMove succeeded
          · have stays : hostStep runtime host (.sendMessage answers envelope options) = host := by
              unfold hostStep
              split <;> first | rfl | contradiction
            rw [stays]
            exact .refl
        exact moves.sameRoute found
    | compact => cases isProtocol
    | _ => exact absurd rfl spares

theorem grant?_of_phase {phase : Option Phase} (isPhase : host.journal.phase? messageId = phase)
    (notQueued : phase ≠ some .queuedLocal) : grant? runtime messageId host label = none := by
  unfold grant?
  split
  · exact if_neg fun claims => notQueued (isPhase.symm.trans claims.1)
  · rfl

variable {grant : Grant} {args : ClaimArgs} {now : Int} {after : Journal} {replyId : String}

/-- A row keeps its claim whatever moves it. -/
theorem RowMove.carries {row changed : MessageRow} (move : RowMove label messageId row changed)
    (carries : row.Carries grant) : changed.Carries grant := by
  obtain ⟨token, session, generation, lease, started, phase⟩ := carries
  cases move with
  | claimed args now isLabel isMessage queued => exact absurd queued phase
  | expired | recovered | expiredLate =>
      exact ⟨token, session, generation, lease, started, nofun⟩
  | late text now held =>
      exact ⟨token, session, generation, lease, started, phase⟩

/-- A row of a message that no route is pinned to stays one. -/
theorem unpinned_of_found {row : MessageRow} (found : host.journal.messages.find? messageId = some row)
    (unpinned : row.Unpinned) :
    ∀ other, host.journal.messages.find? messageId = some other → other.Unpinned := by
  intro other foundOther
  rwa [← Option.mem_unique found foundOther]

theorem ClaimState.pinned_step {row : MessageRow} {later : List Grant}
    (isProtocol : label.inClaimProtocol = true)
    (found : host.journal.messages.find? messageId = some row) (isPinned : ¬ row.Unpinned) :
    ClaimState (hostStep runtime host label).journal messageId later := by
  obtain ⟨changed, foundAfter, sameRoute⟩ := hostStep_sameRoute isProtocol found
  refine .pinned changed foundAfter fun unpinned => isPinned ?_
  rwa [MessageRow.Unpinned, sameRoute] at unpinned

/-- The invariant goes through every step of the protocol. -/
theorem ClaimState.step (state : ClaimState host.journal messageId granted)
    (isStep : label.ClaimStep) :
    ClaimState (hostStep runtime host label).journal messageId
      (granted ++ (grant? runtime messageId host label).toList) := by
  cases state with
  | absent missing noGrant =>
      have noPhase : host.journal.phase? messageId = none := by
        rw [Journal.phase?, missing, Option.map_none]
      have noNew : grant? runtime messageId host label = none :=
        grant?_of_phase noPhase (Option.some_ne_none _).symm
      rw [noNew, Option.toList_none, List.append_nil]
      cases hostStep_inboxMove runtime isStep.1
        (fun row found => by cases missing.symm.trans found) with
      | quiet sameRow => exact .absent (sameRow.trans missing) noGrant
      | sent row _ found queued => exact .queued row found queued noGrant
      | moved _ _ found => cases missing.symm.trans found
      | answered _ _ _ _ _ _ _ found => cases missing.symm.trans found
  | queued row found isQueued noGrant =>
      by_cases unpinned : row.Unpinned
      · cases hostStep_inboxMove runtime isStep.1 (unpinned_of_found found unpinned) with
        | quiet sameRow =>
            have notClaimed : grant? runtime messageId host label = none := by
              unfold grant?
              split
              · refine if_neg fun claims => ?_
                have executing := claims.2
                rw [Journal.phase?, sameRow, found, Option.map_some, isQueued] at executing
                cases executing
              · rfl
            rw [notClaimed, Option.toList_none, List.append_nil]
            exact .queued row (sameRow.trans found) isQueued noGrant
        | sent _ absent => cases absent.symm.trans found
        | moved moving changed isFound foundAfter move =>
            obtain rfl := Option.mem_unique isFound found
            cases move with
            | claimed args now isLabel =>
                subst isLabel
                have claims : ClaimsMessage runtime host (.claimInboxMessage args now) messageId :=
                  ⟨by rw [phase?_of_find? found, isQueued], by rw [phase?_of_find? foundAfter]; rfl⟩
                have isNew : grant? runtime messageId host (.claimInboxMessage args now) =
                    some ⟨args, now⟩ := if_pos claims
                rw [isNew, noGrant]
                exact .claimed _ ⟨args, now⟩ foundAfter
                  ⟨rfl, rfl, rfl, rfl, isStep.2 now rfl, by rintro ⟨⟩⟩ rfl
            | expired _ executing | recovered _ executing | expiredLate _ _ executing =>
                cases isQueued.symm.trans executing
            | late _ _ held => cases isQueued.symm.trans held
        | answered _ _ _ answering _ _ _ isFound _ _ executing =>
            obtain rfl := Option.mem_unique isFound found
            cases isQueued.symm.trans executing
      · exact .pinned_step isStep.1 found unpinned
  | claimed row grant found carries isGrant =>
      by_cases unpinned : row.Unpinned
      · have noNew : grant? runtime messageId host label = none :=
          grant?_of_phase (phase?_of_find? found) fun same => carries.phase (Option.some.inj same)
        rw [noNew, Option.toList_none, List.append_nil]
        cases hostStep_inboxMove runtime isStep.1 (unpinned_of_found found unpinned) with
        | quiet sameRow => exact .claimed row grant (sameRow.trans found) carries isGrant
        | sent _ absent => cases absent.symm.trans found
        | moved moving changed isFound foundAfter move =>
            obtain rfl := Option.mem_unique isFound found
            exact .claimed changed grant foundAfter (move.carries carries) isGrant
        | answered _ _ now answering _ _ _ isFound foundAfter =>
            obtain rfl := Option.mem_unique isFound found
            obtain ⟨token, session, generation, lease, started, -⟩ := carries
            exact .claimed _ grant foundAfter
              ⟨token, session, generation, lease, started, by rintro ⟨⟩⟩ isGrant
      · exact .pinned_step isStep.1 found unpinned
  | pinned row found isPinned => exact .pinned_step isStep.1 found isPinned

variable {labels : List HostLabel}

/-- The invariant holds along every run of the protocol. -/
theorem ClaimState.runFrom
    (steps : (hostMachine runtime).Along (fun _ label => label.ClaimStep) host labels)
    (state : ClaimState host.journal messageId granted) :
    ClaimState ((hostMachine runtime).runFrom host labels).journal messageId
      (granted ++ grants runtime messageId host labels) := by
  induction labels generalizing host granted with
  | nil => rwa [grants, List.append_nil]
  | cons label rest ih =>
      rw [grants, ← List.append_assoc]
      exact ih steps.2 (state.step steps.1)

theorem claimState_run (steps : (hostMachine runtime).Along (fun _ label => label.ClaimStep)
      (hostMachine runtime).initial labels) :
    ClaimState ((hostMachine runtime).run labels).journal messageId
      (grants runtime messageId (hostMachine runtime).initial labels) := by
  have start : ClaimState (hostMachine runtime).initial.journal messageId [] :=
    .absent rfl rfl
  exact start.runFrom steps

/-! ## Calls that are not refused -/

/-- The claim names what it must, and its message is the requester's. -/
structure CorrectClaim (args : ClaimArgs) (row : MessageRow) : Prop where
  named : args.messageId ≠ "" ∧ args.requester ≠ "" ∧ args.sessionId ≠ "" ∧
    isIdentifier args.claimId = true
  recipient : row.recipient = args.requester
  interactive : row.recipientType = .interactive

/-- The reply names what it must and presents the claim of its message. -/
structure CorrectReply (args : InteractiveReplyArgs) (row : MessageRow) : Prop where
  named : args.messageId ≠ "" ∧ args.claimToken ≠ "" ∧ args.requester ≠ "" ∧ args.sessionId ≠ ""
  presents : PresentsClaim args none row

variable {journal : Journal} {row : MessageRow}

theorem CorrectClaim.expires (correct : CorrectClaim args row)
    (found : journal.messages.find? args.messageId = some row) (executing : row.phase = .executing)
    (isExpired : row.leaseExpired now = true) :
    claimInboxMessage args now journal =
      .ok (journal.setMessage args.messageId (·.expired now) fun _ => rfl,
        .thrown ⟨.leaseExpired, "Claim lease expired and execution was held"⟩) := by
  simp only [claimInboxMessage, require_bind_ok]
  refine ⟨correct.named, ?_⟩
  rw [found]
  simp only [require_bind_ok]
  refine ⟨correct.recipient, correct.interactive, ?_⟩
  rw [executing]
  dsimp only
  rw [if_pos isExpired]
  rfl

/-- A message that is neither queued nor executing is not handed out. -/
theorem claimInboxMessage_refuses {result : Committed (Option ClaimReceipt)}
    (found : journal.messages.find? args.messageId = some row)
    (notQueued : row.phase ≠ .queuedLocal) (notExecuting : row.phase ≠ .executing)
    (succeeded : claimInboxMessage args now journal = .ok (after, result)) :
    after = journal ∧ result = .returned none := by
  obtain ⟨claimed, isFound, -, -, claimEnd⟩ := claimInboxMessage_ok succeeded
  obtain rfl := Option.mem_unique isFound found
  cases claimEnd with
  | expired executing | retried executing => exact absurd executing notExecuting
  | refused => exact ⟨rfl, rfl⟩
  | granted queued => exact absurd queued notQueued

/-- A correct reply to an unpinned message commits as its end says. -/
theorem CorrectReply.commits {answers : RouteAnswers} {args : InteractiveReplyArgs}
    {result : Committed (ReplyRow × Bool)} (correct : CorrectReply args row)
    (found : journal.messages.find? args.messageId = some row) (unpinned : row.Unpinned)
    (replyEnd : ReplyEnd runtime answers args now journal none row after result) :
    recordInteractiveReply runtime answers args now journal = .ok (after, result) :=
  replyEnd.commits correct.named found (verifyPin_unpinned unpinned) correct.presents

/-! ## What holds of a message after any run -/

/-- The lease of a carried claim runs out when the claim says. -/
theorem MessageRow.Carries.leaseExpired_iff (carries : row.Carries grant) :
    row.leaseExpired now = true ↔ grant.leaseExpiresAt ≤ now := by
  have positive : 0 < grant.leaseExpiresAt :=
    Int.add_pos_of_nonneg_of_pos carries.started grant.args.lease_pos
  rw [MessageRow.leaseExpired, carries.lease, Option.any_some, Bool.and_eq_true,
    decide_eq_true_eq, decide_eq_true_eq]
  exact ⟨fun both => both.2, fun isOver => ⟨by omega, isOver⟩⟩

section

variable (state : ClaimState host.journal messageId granted)
  (found : host.journal.messages.find? messageId = some row) (unpinned : row.Unpinned)
include state found unpinned

/-- A row that is not queued carries the one claim of the run. -/
theorem ClaimState.carries (notQueued : row.phase ≠ .queuedLocal) :
    ∃ grant, granted = [grant] ∧ row.Carries grant := by
  cases state with
  | absent missing => exact nomatch missing.symm.trans found
  | queued other isFound isQueued =>
      obtain rfl := Option.mem_unique isFound found
      exact absurd isQueued notQueued
  | claimed other grant isFound carries isGrant =>
      obtain rfl := Option.mem_unique isFound found
      exact ⟨grant, isGrant, carries⟩
  | pinned other isFound isPinned =>
      obtain rfl := Option.mem_unique isFound found
      exact absurd unpinned isPinned

/-- An unpinned message is claimed at most once. -/
theorem ClaimState.length_le_one : granted.length ≤ 1 := by
  cases state with
  | absent missing => exact nomatch missing.symm.trans found
  | queued _ _ _ noGrant =>
      rw [noGrant]
      exact Nat.zero_le 1
  | claimed _ grant _ _ isGrant =>
      rw [isGrant]
      exact Nat.le_refl 1
  | pinned other isFound isPinned =>
      obtain rfl := Option.mem_unique isFound found
      exact absurd unpinned isPinned

end

/-- A reply to a message is one of those that are selected for it. -/
theorem replied_iff :
    journal.Replied messageId replyId ↔
      ∃ reply ∈ repliesTo journal messageId, reply.messageId = replyId := by
  refine ⟨fun ⟨reply, found, isReply⟩ => ?_, fun ⟨reply, member, sameId⟩ => ?_⟩
  · obtain ⟨-, rfl⟩ := Table.find?_some found
    exact ⟨reply, Table.mem_select.mpr ⟨found, decide_eq_true isReply⟩, rfl⟩
  · obtain ⟨found, isReply⟩ := Table.mem_select.mp member
    exact ⟨reply, sameId ▸ found, of_decide_eq_true isReply⟩

/-- A new reply presents the one claim while its lease runs. -/
theorem insertsReply_presents (state : ClaimState host.journal messageId granted)
    (found : host.journal.messages.find? messageId = some row) (unpinned : row.Unpinned)
    (isProtocol : label.inClaimProtocol = true)
    (inserts : InsertsReply runtime host label messageId replyId) :
    ∃ answers args now grant, label = .sendReply answers args now ∧ args.messageId = messageId ∧
      granted = [grant] ∧ args.claimToken = grant.args.claimToken ∧
      args.sessionId = grant.args.sessionId ∧ args.generation = grant.args.generation ∧
      now < grant.leaseExpiresAt := by
  obtain ⟨isNew, isStored⟩ := inserts
  rw [replied_iff] at isNew isStored
  cases hostStep_inboxMove runtime isProtocol (unpinned_of_found found unpinned) with
  | quiet _ same | sent _ _ _ _ same | moved _ _ _ _ _ same => exact absurd (same ▸ isStored) isNew
  | answered answers args now answering reply isLabel isMessage isFound _ presents executing isLive =>
      obtain rfl := Option.mem_unique isFound found
      obtain ⟨grant, isGrant, carries⟩ := state.carries found unpinned
        (executing ▸ nofun)
      have sameGeneration : answering.claimGeneration = some args.generation := by
        rcases presents.generation with same | ⟨_, isNone, -⟩
        · exact same
        · cases isNone
      refine ⟨answers, args, now, grant, isLabel, isMessage, isGrant, ?_, ?_, ?_, ?_⟩
      · exact Option.mem_unique presents.token carries.token
      · exact Option.mem_unique presents.session carries.session
      · exact Option.mem_unique sameGeneration carries.generation
      · by_contra isOver
        rw [carries.leaseExpired_iff.mpr (not_lt.mp isOver)] at isLive
        cases isLive

/-- A held message stays held, with its replies and all of its row but the late text. -/
theorem runFrom_held (found : host.journal.messages.find? messageId = some row)
    (unpinned : row.Unpinned) (held : row.phase = .held)
    (steps : (hostMachine runtime).Along (fun _ label => label.ClaimStep) host labels) :
    ∃ kept, ((hostMachine runtime).runFrom host labels).journal.messages.find? messageId =
        some kept ∧
      { kept with lateResultText := row.lateResultText, updatedAt := row.updatedAt } = row ∧
      repliesTo ((hostMachine runtime).runFrom host labels).journal messageId =
        repliesTo host.journal messageId := by
  refine @Machine.Along.invariant _ _ (hostMachine runtime) _ (fun reached : Host =>
    ∃ kept, reached.journal.messages.find? messageId = some kept ∧
      { kept with lateResultText := row.lateResultText, updatedAt := row.updatedAt } = row ∧
      repliesTo reached.journal messageId = repliesTo host.journal messageId) ?_ _
    ⟨row, found, rfl, rfl⟩ _ steps
  rintro reached label isStep ⟨kept, isKept, sameRow, sameReplies⟩
  have keptUnpinned : kept.Unpinned := by
    rw [← sameRow] at unpinned
    exact unpinned
  have keptHeld : kept.phase = .held := by
    rw [← sameRow] at held
    exact held
  cases hostStep_inboxMove runtime isStep.1 (unpinned_of_found isKept keptUnpinned) with
  | quiet stays repliesStay => exact ⟨kept, stays.trans isKept, sameRow, repliesStay.trans sameReplies⟩
  | sent _ absent => exact nomatch absent.symm.trans isKept
  | moved moving changed isFound foundAfter move repliesStay =>
      obtain rfl := Option.mem_unique isFound isKept
      cases move with
      | claimed _ _ _ _ queued => exact nomatch keptHeld.symm.trans queued
      | expired _ executing | recovered _ executing | expiredLate _ _ executing =>
          exact nomatch keptHeld.symm.trans executing
      | late => exact ⟨_, foundAfter, sameRow, repliesStay.trans sameReplies⟩
  | answered _ _ _ _ _ _ _ isFound _ _ executing =>
      obtain rfl := Option.mem_unique isFound isKept
      exact nomatch keptHeld.symm.trans executing

/-- A completed message stays as it is, with its replies. -/
theorem runFrom_completed (found : host.journal.messages.find? messageId = some row)
    (unpinned : row.Unpinned) (completed : row.phase = .completed)
    (steps : (hostMachine runtime).Along (fun _ label => label.ClaimStep) host labels) :
    ((hostMachine runtime).runFrom host labels).journal.messages.find? messageId = some row ∧
      repliesTo ((hostMachine runtime).runFrom host labels).journal messageId =
        repliesTo host.journal messageId := by
  refine @Machine.Along.invariant _ _ (hostMachine runtime) _ (fun reached : Host =>
    reached.journal.messages.find? messageId = some row ∧
      repliesTo reached.journal messageId = repliesTo host.journal messageId) ?_ _
    ⟨found, rfl⟩ _ steps
  rintro reached label isStep ⟨isKept, sameReplies⟩
  cases hostStep_inboxMove runtime isStep.1 (unpinned_of_found isKept unpinned) with
  | quiet stays repliesStay => exact ⟨stays.trans isKept, repliesStay.trans sameReplies⟩
  | sent _ absent => exact nomatch absent.symm.trans isKept
  | moved moving changed isFound foundAfter move =>
      obtain rfl := Option.mem_unique isFound isKept
      cases move with
      | claimed _ _ _ _ queued => exact nomatch completed.symm.trans queued
      | expired _ executing | recovered _ executing | expiredLate _ _ executing =>
          exact nomatch completed.symm.trans executing
      | late _ _ held => exact nomatch completed.symm.trans held
  | answered _ _ _ _ _ _ _ isFound _ _ executing =>
      obtain rfl := Option.mem_unique isFound isKept
      exact nomatch completed.symm.trans executing

end

/-! ## The protocol -/

section

variable (runtime : JournalRuntime)

/-- The retry says what the accepted reply said: its text, and all that the envelope
hash tells apart. -/
def SameContent (args again : InteractiveReplyArgs) (row : MessageRow) (replyId : String) : Prop :=
  again.text = args.text ∧
    runtime.computeEnvelopeHash (interactiveEnvelope again row replyId) =
      runtime.computeEnvelopeHash (interactiveEnvelope args row replyId)

/-- The retry presents the claim of the accepted reply and names no other reply. -/
structure Retries (args again : InteractiveReplyArgs) (replyId : String) : Prop where
  message : again.messageId = args.messageId
  token : again.claimToken = args.claimToken
  session : again.sessionId = args.sessionId
  generation : again.generation = args.generation
  requester : again.requester = args.requester
  reply : ∀ named ∈ again.replyId.filter (· ≠ ""), named = replyId

/-- The claim protocol of a message whose row the host has, with the claims of it that
were granted so far. -/
structure ClaimProtocol (host : Host) (messageId : String) (row : MessageRow)
    (granted : List Grant) : Prop where
  /-- One claim at most moved the message to executing. -/
  claimedOnce : granted.length ≤ 1
  /-- A reply is inserted only by a call that presents that claim before its lease
  runs out. -/
  answered : ∀ label replyId, label.ClaimStep →
    InsertsReply runtime host label messageId replyId →
    ∃ answers args now grant, label = .sendReply answers args now ∧ args.messageId = messageId ∧
      granted = [grant] ∧ args.claimToken = grant.args.claimToken ∧
      args.sessionId = grant.args.sessionId ∧ args.generation = grant.args.generation ∧
      now < grant.leaseExpiresAt
  /-- A reopen holds the message when it is executing. -/
  reopened : row.phase = .executing → ∀ now,
    ((hostMachine runtime).runFrom host [.stop, .openService now]).journal.messages.find?
      messageId = some (row.recovered now)
  /-- Once the lease has run out, whoever looks at the message holds it, and it is
  neither handed out nor answered. -/
  expired : row.phase = .executing → ∃ grant, granted = [grant] ∧
    ∀ now, grant.leaseExpiresAt ≤ now →
      (reapExpiredClaims row.recipient now host.journal).messages.find? messageId =
        some (row.expired now) ∧
      (∀ args, args.messageId = messageId → CorrectClaim args row →
        claimInboxMessage args now host.journal =
          .ok (host.journal.setMessage args.messageId (·.expired now) fun _ => rfl,
            .thrown ⟨.leaseExpired, "Claim lease expired and execution was held"⟩)) ∧
      (∀ answers args, args.messageId = messageId → CorrectReply args row →
        recordInteractiveReply runtime answers args now host.journal =
          .ok (host.journal.setMessage args.messageId
              (fun row => (row.expired now).late args.text now) fun _ => rfl,
            .thrown ⟨.leaseExpired,
              "Claim lease expired; late result retained as held evidence"⟩)) ∧
      (∀ args after receipt, args.messageId = messageId →
        claimInboxMessage args now host.journal ≠ .ok (after, .returned (some receipt))) ∧
      ∀ answers args after reply, args.messageId = messageId →
        recordInteractiveReply runtime answers args now host.journal ≠ .ok (after, .returned reply)
  /-- A held message stays held: a correct reply changes its late text alone, and it
  is never handed out. -/
  held : row.phase = .held → ∀ later,
    (hostMachine runtime).Along (fun _ label => label.ClaimStep) host later →
    let reached := ((hostMachine runtime).runFrom host later).journal
    ∃ kept, reached.messages.find? messageId = some kept ∧
      { kept with lateResultText := row.lateResultText, updatedAt := row.updatedAt } = row ∧
      repliesTo reached messageId = repliesTo host.journal messageId ∧
      (∀ answers args now, args.messageId = messageId → CorrectReply args kept →
        recordInteractiveReply runtime answers args now reached =
          .ok (reached.setMessage args.messageId (·.late args.text now) fun _ => rfl,
            .thrown ⟨.replyNotAccepted,
              "Message is in phase held; late result retained as held evidence"⟩)) ∧
      ∀ args now after receipt, args.messageId = messageId →
        claimInboxMessage args now reached ≠ .ok (after, .returned (some receipt))
  /-- Every later retry with the content of the accepted reply returns that reply. No
  call with another content commits, and none changes anything. -/
  retried : host.mode = .serving → ∀ answers args now after reply, args.messageId = messageId →
    recordInteractiveReply runtime answers args now host.journal =
      .ok (after, .returned (reply, false)) →
    ∀ later, (hostMachine runtime).Along (fun _ label => label.ClaimStep)
      (hostStep runtime host (.sendReply answers args now)) later →
    let reached := ((hostMachine runtime).runFrom
      (hostStep runtime host (.sendReply answers args now)) later).journal
    ∀ others again retriedAt,
      (Retries args again reply.messageId → SameContent runtime args again row reply.messageId →
        recordInteractiveReply runtime others again retriedAt reached =
          .ok (reached, .returned (reply, true))) ∧
      ∀ journal result, again.messageId = messageId →
        recordInteractiveReply runtime others again retriedAt reached = .ok (journal, result) →
        journal = reached ∧ result = .returned (reply, true) ∧
          SameContent runtime args again row reply.messageId

end

section

variable {runtime : JournalRuntime} {messageId : String} {host : Host} {row : MessageRow}
  {granted : List Grant}

/-- The row and the replies of a message once its reply was accepted. -/
theorem accepted_stays (invariant : HostInvariant host)
    (found : host.journal.messages.find? messageId = some row) (unpinned : row.Unpinned)
    (serving : host.mode = .serving) {answers : RouteAnswers} {args : InteractiveReplyArgs}
    {now : Int} {after : Journal} {reply : ReplyRow} (isMessage : args.messageId = messageId)
    (succeeded : recordInteractiveReply runtime answers args now host.journal =
      .ok (after, .returned (reply, false)))
    {later : List HostLabel}
    (steps : (hostMachine runtime).Along (fun _ label => label.ClaimStep)
      (hostStep runtime host (.sendReply answers args now)) later) :
    PresentsClaim args none row ∧ reply = interactiveReplyRow runtime args none row now ∧
      ((hostMachine runtime).runFrom (hostStep runtime host (.sendReply answers args now))
        later).journal.messages.find? messageId = some (row.answered now) ∧
      repliesTo ((hostMachine runtime).runFrom
        (hostStep runtime host (.sendReply answers args now)) later).journal messageId = [reply] := by
  subst isMessage
  obtain ⟨original, pin, isFound, verified, presents, replyEnd⟩ := recordInteractiveReply_ok succeeded
  obtain rfl := Option.mem_unique isFound found
  obtain rfl : none = pin := by
    rw [verifyPin_unpinned unpinned] at verified
    exact Except.ok.inj verified
  cases replyEnd with
  | accepted executing isLive isFree committed =>
      obtain ⟨foundAfter, newReply⟩ := accepted_unpinned found isFree committed
      -- An executing message has no stored reply.
      have noReply : repliesTo host.journal args.messageId = [] := by
        refine List.eq_nil_iff_forall_not_mem.mpr fun earlier member => ?_
        have completed := invariant.repliedCompleted args.messageId earlier.messageId
          (replied_iff.mpr ⟨earlier, member, rfl⟩)
        rw [phase?_of_find? found, executing] at completed
        cases completed
      have isStep : (hostStep runtime host (.sendReply answers args now)).journal = after := by
        rw [hostStep_serving serving (by simp)]
        change (host.commit (recordInteractiveReply runtime answers args now host.journal)).journal =
          after
        rw [succeeded]
        rfl
      have foundStep : (hostStep runtime host (.sendReply answers args
          now)).journal.messages.find? args.messageId = some (original.answered now) :=
        isStep ▸ foundAfter
      obtain ⟨stays, repliesStay⟩ := runFrom_completed foundStep unpinned rfl steps
      refine ⟨presents, rfl, stays, repliesStay.trans ?_⟩
      rw [isStep, newReply, noReply, List.nil_append]

/-- The protocol holds of every unpinned interactive message in every state that a run
of it reaches. -/
theorem interactive_claims (runtime : JournalRuntime) {labels : List HostLabel}
    (steps : (hostMachine runtime).Along (fun _ label => label.ClaimStep)
      (hostMachine runtime).initial labels) {messageId : String} {row : MessageRow}
    (found : ((hostMachine runtime).run labels).journal.messages.find? messageId = some row)
    (interactive : row.recipientType = .interactive) (unpinned : row.Unpinned) :
    ClaimProtocol runtime ((hostMachine runtime).run labels) messageId row
      (grants runtime messageId (hostMachine runtime).initial labels) := by
  have state : ClaimState ((hostMachine runtime).run labels).journal messageId _ :=
    claimState_run steps
  have invariant : HostInvariant ((hostMachine runtime).run labels) := run_invariant labels
  generalize (hostMachine runtime).run labels = host at *
  generalize grants runtime messageId (hostMachine runtime).initial labels = granted at *
  refine ⟨state.length_le_one found unpinned, fun label replyId isStep inserts =>
    insertsReply_presents state found unpinned isStep.1 inserts, ?_, ?_, ?_, ?_⟩
  case refine_1 =>
    intro executing now
    change (holdExecuting now host.journal).messages.find? messageId = _
    rw [holdExecuting, find?_updateMessages, found, Option.map_some,
      if_pos (decide_eq_true executing)]
    rfl
  case refine_2 =>
    intro executing
    obtain ⟨grant, isGrant, carries⟩ := state.carries found unpinned
      (executing ▸ fun is => nomatch is)
    refine ⟨grant, isGrant, fun now isOver => ?_⟩
    have isExpired := carries.leaseExpired_iff.mpr isOver
    refine ⟨?_, ?_, ?_, ?_, ?_⟩
    · rw [reapExpiredClaims, find?_updateMessages, found, Option.map_some, if_pos]
      · rfl
      · simp [executing, interactive, carries.lease, isOver]
    · rintro args rfl correct
      exact correct.expires found executing isExpired
    · rintro answers args rfl correct
      exact correct.commits found unpinned (.expired executing isExpired)
    · rintro args after receipt rfl succeeded
      obtain ⟨claimed, isFound, -, -, claimEnd⟩ := claimInboxMessage_ok succeeded
      obtain rfl := Option.mem_unique isFound found
      cases claimEnd with
      | retried _ isLive => exact nomatch isExpired.symm.trans isLive
      | granted queued => exact nomatch executing.symm.trans queued
    · rintro answers args after reply rfl succeeded
      obtain ⟨original, pin, isFound, -, -, replyEnd⟩ := recordInteractiveReply_ok succeeded
      obtain rfl := Option.mem_unique isFound found
      cases replyEnd with
      | repeated _ completed => exact nomatch executing.symm.trans completed
      | known _ _ isLive => exact nomatch isExpired.symm.trans isLive
      | accepted _ isLive => exact nomatch isExpired.symm.trans isLive
  case refine_3 =>
    intro held later laterSteps
    obtain ⟨kept, isKept, sameRow, sameReplies⟩ := runFrom_held found unpinned held laterSteps
    have keptUnpinned : kept.Unpinned := by
      rw [← sameRow] at unpinned
      exact unpinned
    have keptHeld : kept.phase = .held := by
      rw [← sameRow] at held
      exact held
    refine ⟨kept, isKept, sameRow, sameReplies, ?_, ?_⟩
    · rintro answers args now rfl correct
      exact correct.commits isKept keptUnpinned (.keptLate keptHeld)
    · rintro args now after receipt rfl succeeded
      obtain ⟨-, isNone⟩ := claimInboxMessage_refuses isKept (keptHeld ▸ fun is => nomatch is)
        (keptHeld ▸ fun is => nomatch is) succeeded
      cases isNone
  case refine_4 =>
    intro serving answers args now after reply isMessage succeeded later laterSteps reached
      others again retriedAt
    have named := recordInteractiveReply_named succeeded
    obtain ⟨presents, isReply, stays, repliesStay⟩ :=
      accepted_stays invariant found unpinned serving isMessage succeeded laterSteps
    subst isMessage
    refine ⟨fun retries same => ?_, fun journal result sameMessage committed => ?_⟩
    · have correct : CorrectReply again (row.answered now) :=
        { named := by
            rw [retries.message, retries.token, retries.requester, retries.session]
            exact named
          presents :=
            { recipient := presents.recipient.trans retries.requester.symm
              interactive := presents.interactive
              token := presents.token.trans (congrArg some retries.token.symm)
              session := presents.session.trans (congrArg some retries.session.symm)
              generation := retries.generation ▸ presents.generation } }
      have sameReply : SameReply runtime again (row.answered now) reply :=
        { replyId := fun replyId isNamed => .inl (retries.reply replyId isNamed)
          sender := by rw [isReply, retries.requester]; rfl
          text := by rw [same.1, isReply]; rfl
          hash := by
            refine Eq.trans ?_ same.2.symm
            rw [isReply]
            rfl }
      rw [← retries.message] at stays repliesStay
      have stored : (repliesTo reached again.messageId).head? = some reply := by
        rw [repliesStay, List.head?_cons]
      exact correct.commits stays unpinned (.repeated reply rfl stored sameReply rfl)
    · obtain ⟨original, pin, isFound, verified, -, replyEnd⟩ := recordInteractiveReply_ok committed
      rw [sameMessage] at isFound
      obtain rfl := Option.mem_unique isFound stays
      have answeredUnpinned : (row.answered now).Unpinned := unpinned
      obtain rfl : none = pin := by
        rw [verifyPin_unpinned answeredUnpinned] at verified
        exact Except.ok.inj verified
      cases replyEnd with
      | repeated existing completed stored same isCommitted =>
          rw [sameMessage, repliesStay, List.head?_cons] at stored
          obtain rfl := Option.some.inj stored
          refine ⟨commitAcceptedReply_none isCommitted, rfl, ?_, ?_⟩
          · rw [← same.text, isReply]
            rfl
          · refine same.hash.symm.trans ?_
            rw [isReply]
            rfl
      | keptLate is | expired is | known _ is | accepted is => cases is

end

/-! ## A lease that nobody looks at -/

/-- The route stores of a host without pinned routes. -/
private def noRoutes : RouteAnswers where
  available := false
  attached := fun _ _ _ => false
  pinInTransaction := fun _ => .error ⟨.replyRouteMissing, ""⟩
  verifyInTransaction := .error ⟨.replyRouteMissing, ""⟩
  advanceInTransaction := .ok ()

/-- A journal that hashes an envelope to its text. -/
private def textRuntime : JournalRuntime where
  computeEnvelopeHash := Envelope.text
  sha256Hex := id
  hashVersion := VersionFields.messageId

/-- A claim for one second at 2 ms, and at 5000 ms a look into another inbox. -/
private def unseenExpiry : List HostLabel :=
  [.openService 0,
    .sendMessage noRoutes
      { sender := "a", recipient := "b", messageId := "m1", requestId := "m1", inReplyTo := none
        text := "work", metadata := none }
      { recipientType := .interactive, now := 1 },
    .claimInboxMessage
      { messageId := "m1", requester := "b", sessionId := "s", generation := 1, claimId := "c"
        leaseDurationMs := 1000, claimToken := "t" } 2,
    .listInbox "c" 5000]

/-- The row that is left. -/
private def unseenRow : MessageRow where
  messageId := "m1"
  sender := "a"
  recipient := "b"
  recipientType := .interactive
  requestId := "m1"
  inReplyTo := none
  text := "work"
  metadataJson := none
  canonicalHash := "work"
  phase := .executing
  createdAt := 1
  updatedAt := 2
  toPrincipal := none
  resolvedVia := none
  claimToken := some "t"
  claimSessionId := some "s"
  claimGeneration := some 1
  claimOperationId := some "c"
  leaseExpiresAt := some 1002

/-- A message whose lease has run out is not held before somebody looks at it. -/
theorem expired_lease_unseen : ¬ ∀ (labels : List HostLabel) (label : HostLabel) (now : Int)
    (messageId : String) (row : MessageRow),
    (hostMachine textRuntime).Along (fun _ label => label.ClaimStep)
      (hostMachine textRuntime).initial (labels ++ [label]) →
    label.clock? = some now →
    ((hostMachine textRuntime).run (labels ++ [label])).journal.messages.find? messageId =
      some row →
    row.recipientType = .interactive → row.Unpinned → row.leaseExpired now = true →
    row.phase = .held := by
  intro alwaysHeld
  have held := alwaysHeld (unseenExpiry.take 3) (.listInbox "c" 5000) 5000 "m1" unseenRow
    (by simp [unseenExpiry, Machine.Along, HostLabel.ClaimStep, HostLabel.inClaimProtocol,
      HostLabel.clock?])
    rfl (by rfl) rfl (by rfl) (by decide)
  cases held

theorem interactive_claims_unseen :
    ClaimProtocol textRuntime ((hostMachine textRuntime).run unseenExpiry) "m1" unseenRow
      (grants textRuntime "m1" (hostMachine textRuntime).initial unseenExpiry) :=
  interactive_claims textRuntime
    (by simp [unseenExpiry, Machine.Along, HostLabel.ClaimStep, HostLabel.inClaimProtocol,
      HostLabel.clock?])
    (by rfl) rfl (by rfl)

end Triangle.LocalMessaging
