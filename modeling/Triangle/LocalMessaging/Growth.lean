import Triangle.LocalMessaging.Edits

/-!
# What a step adds

New messages and new replies come under the ids that the label of the step names,
and an audit row that was written stays. `Grows` says the three. `ReconcileEnd` lists
how a reconciliation that commits can end.
-/

namespace Triangle.LocalMessaging

open Triangle.Std Triangle.Std.Text

/-- A change that adds no rows but the named ones and keeps the audit. -/
structure Grows (newMessage newReply : String → Prop) (before after : Journal) : Prop where
  messages : ∀ messageId, (after.messages.find? messageId).isSome →
    newMessage messageId ∨ (before.messages.find? messageId).isSome
  replies : ∀ replyId, (after.replies.find? replyId).isSome →
    newReply replyId ∨ (before.replies.find? replyId).isSome
  audit : ∀ reconcileId row, before.reconciliations.find? reconcileId = some row →
    after.reconciliations.find? reconcileId = some row

section

variable {runtime : JournalRuntime} {host : Host} {label : HostLabel} {now : Int}
  {journal after : Journal}

theorem Edits.grows (edits : Edits runtime host label journal after) :
    Grows label.addsMessage label.addsReply journal after := by
  induction edits with
  | refl => exact ⟨fun _ => .inr, fun _ => .inr, fun _ _ found => found⟩
  | trans _ _ before next =>
      exact ⟨fun id isThere => (next.messages id isThere).elim .inl (before.messages id),
        fun id isThere => (next.replies id isThere).elim .inl (before.replies id),
        fun id row found => next.audit id row (before.audit id row found)⟩
  | update sameSend =>
      refine ⟨fun messageId isThere => .inr ?_, fun _ => .inr, fun _ _ found => found⟩
      rwa [find?_updateMessages, Option.isSome_map] at isThere
  | send row evidence isNew isFree =>
      refine ⟨fun messageId isThere => ?_, fun _ => .inr, fun _ _ found => found⟩
      rw [Table.find?_upsert] at isThere
      split at isThere
      next same =>
        cases label with
        | sendMessage => exact .inl (same.trans (congrArg MessageRow.messageId isNew))
        | _ => cases isNew
      · exact .inr isThere
  | reply row isNew isNamed isFree =>
      refine ⟨fun _ => .inr, fun replyId isThere => ?_, fun _ _ found => found⟩
      rw [Table.find?_upsert] at isThere
      split at isThere
      next same => exact .inl (same ▸ isNamed)
      · exact .inr isThere
  | consume replyId now =>
      refine ⟨fun _ => .inr, fun replyId isThere => .inr ?_, fun _ _ found => found⟩
      rwa [Table.find?_update, Option.isSome_map] at isThere
  | compact now retentionMs isLabel =>
      refine ⟨fun messageId isThere => .inr ?_, fun replyId isThere => .inr ?_,
        fun _ _ found => found⟩
      · rw [LocalMessaging.compact, Table.find?_delete] at isThere
        exact Option.isSome_of_isSome_filter _ _ isThere
      · rw [LocalMessaging.compact, Table.find?_delete] at isThere
        exact Option.isSome_of_isSome_filter _ _ isThere
  | audit row isFree =>
      refine ⟨fun _ => .inr, fun _ => .inr, fun reconcileId earlier found => ?_⟩
      rw [Table.find?_upsert, if_neg]
      · exact found
      · rintro rfl
        cases isFree.symm.trans found

/-- A step adds only the rows that its label names. -/
theorem hostStep_grows :
    Grows label.addsMessage label.addsReply host.journal (hostStep runtime host label).journal :=
  hostStep_edits.grows

/-- What `reconcileMessage` writes into the audit. -/
def auditRow (request : ReconcileRequest) (row : MessageRow) (outcome : ReconcileOutcome)
    (now : Int) : ReconciliationRow where
  reconcileId := request.reconcileId
  messageId := request.messageId
  action := request.action
  fromPhase := row.phase
  fromReason := row.reason
  expectedVersion := request.expectVersion
  lateResultSha256 := request.expectLateHash
  replyMessageId := outcome.replyMessageId
  outcomePhase := outcome.outcomePhase
  note := request.note
  createdAt := now

/-- How a reconciliation that commits ends. -/
inductive ReconcileEnd (runtime : JournalRuntime) (request : ReconcileRequest) (now : Int)
    (journal : Journal) : Journal → ReconcileOutcome → Prop
  | repeated (prior : ReconciliationRow)
      (isFound : journal.reconciliations.find? request.reconcileId = some prior)
      (isRetry : checkReconcileRetry prior request = .ok ()) :
      ReconcileEnd runtime request now journal journal
        ⟨prior.outcomePhase, prior.replyMessageId, true⟩
  | applied {after : Journal} {outcome : ReconcileOutcome} (row : MessageRow)
      (lateText : Option String)
      (isFresh : journal.reconciliations.find? request.reconcileId = none)
      (checked : checkReconcileRecord runtime request journal = .ok (row, lateText))
      (isFirst : outcome.isDuplicate = false)
      (named : request.action = .markCompleted → outcome.replyMessageId = request.expectReplyId)
      (messages : ∀ messageId, (after.messages.find? messageId).isSome →
        (journal.messages.find? messageId).isSome)
      (replies : after.replies = journal.replies ∨
        after.replies = journal.replies.upsert (lateReplyRow runtime request row lateText now))
      (audited : after.reconciliations =
        journal.reconciliations.upsert (auditRow request row outcome now)) :
      ReconcileEnd runtime request now journal after outcome

theorem reconcileMessage_ok {request : ReconcileRequest} {outcome : ReconcileOutcome}
    (succeeded : reconcileMessage runtime request now journal = .ok (after, outcome)) :
    validateReconcileRequest request = .ok () ∧
      ReconcileEnd runtime request now journal after outcome := by
  simp only [reconcileMessage, bind_ok (validateReconcileRequest _)] at succeeded
  obtain ⟨⟨⟩, isValid, rest⟩ := succeeded
  refine ⟨isValid, ?_⟩
  split at rest
  next prior isFound =>
    simp only [bind_ok (checkReconcileRetry _ _)] at rest
    obtain ⟨⟨⟩, isRetry, rest⟩ := rest
    obtain ⟨rfl, rfl⟩ := pair_ok rest
    exact .repeated prior isFound isRetry
  next isFresh =>
    simp only [bind_ok (checkReconcileRecord _ _ _)] at rest
    obtain ⟨⟨row, lateText⟩, checked, rest⟩ := rest
    obtain ⟨rfl, rfl⟩ := pair_ok rest
    refine .applied row lateText isFresh checked rfl ?_ ?_ ?_ ?_
    · intro completes
      rw [completes]
    · intro messageId isThere
      rw [find?_updateMessages, Option.isSome_map] at isThere
      split at isThere
      · exact isThere
      · exact isThere
    · split
      · exact .inr rfl
      · exact .inl rfl
    · split
      · rfl
      · rfl

end

end Triangle.LocalMessaging
