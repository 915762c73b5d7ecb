import Triangle.LocalMessaging.Growth
import Triangle.LocalMessaging.Stored

/-!
# Owner reconciliation is exact

Whether a record may be closed is decided three times: when it is listed, before
the journal is opened, and inside the transaction. In between, an open may add
columns and holds other executions. The three come to the same verdict, because
neither touches a record that is held, its replies or the audit.

An applied request leaves an audit row that no step removes, so its id is used
once.
-/

namespace Triangle.LocalMessaging

open Triangle.Std Triangle.Std.Text Triangle.Semantics

section

variable {runtime : JournalRuntime} {request : ReconcileRequest} {journal : Journal}

/-! ## From the check to the transaction -/

/-- What the checks on a record read. -/
theorem checkReconcileRecord_congr {first second : Journal}
    (sameRow : second.messages.find? request.messageId = first.messages.find? request.messageId)
    (sameReplies : second.replies = first.replies)
    (sameAudit : second.reconciliations = first.reconciliations) :
    checkReconcileRecord runtime request second = checkReconcileRecord runtime request first := by
  have sameIds : replyIdsFor second request.messageId = replyIdsFor first request.messageId := by
    unfold replyIdsFor repliesTo
    rw [sameReplies]
  have sameText : notReconcilableMessage second = notReconcilableMessage first := by
    funext row
    unfold notReconcilableMessage
    rw [sameAudit]
  unfold checkReconcileRecord
  rw [sameRow, sameIds, sameReplies, sameText]

variable {now : Int} {row : MessageRow} {other : ReconcileRequest} {outcome : ReconcileOutcome}

/-- Crash recovery does not change a record that is held. -/
theorem find?_holdExecuting {messageId : String}
    (found : journal.messages.find? messageId = some row) (held : row.phase = .held) :
    (holdExecuting now journal).messages.find? messageId = some row := by
  rw [holdExecuting, find?_updateMessages, found, Option.map_some, if_neg]
  rw [held]
  decide

variable {lateText : Option String} {prior : ReconciliationRow} {host : Host}

theorem checkReconcileRecord_holdExecuting
    (checked : checkReconcileRecord runtime request journal = .ok (row, lateText)) :
    checkReconcileRecord runtime request (holdExecuting now journal) = .ok (row, lateText) := by
  obtain ⟨found, held⟩ := checkReconcileRecord_ok checked
  have same : checkReconcileRecord runtime request (holdExecuting now journal) =
      checkReconcileRecord runtime request journal :=
    checkReconcileRecord_congr ((find?_holdExecuting found held).trans found.symm) rfl rfl
  rw [same, checked]

section

variable (isValid : validateReconcileRequest request = .ok ())
include isValid

/-- A checked request whose id is new is applied. -/
theorem reconcileMessage_applies
    (isFresh : journal.reconciliations.find? request.reconcileId = none)
    (checked : checkReconcileRecord runtime request journal = .ok (row, lateText)) :
    ∃ after outcome, reconcileMessage runtime request now journal = .ok (after, outcome) ∧
      outcome.isDuplicate = false := by
  unfold reconcileMessage
  rw [isValid, ok_bind, isFresh]
  dsimp only
  rw [checked, ok_bind]
  exact ⟨_, _, rfl, rfl⟩

/-- A request that repeats an audited one is answered from its audit row. -/
theorem reconcileMessage_repeats
    (isFound : journal.reconciliations.find? request.reconcileId = some prior)
    (isRetry : checkReconcileRetry prior request = .ok ()) :
    reconcileMessage runtime request now journal =
      .ok (journal, ⟨prior.outcomePhase, prior.replyMessageId, true⟩) := by
  unfold reconcileMessage
  rw [isValid, ok_bind, isFound]
  dsimp only
  rw [isRetry, ok_bind]
  rfl

end

section

variable (isAccepted : precheckReconcile runtime request journal = .ok ())
include isAccepted

/-- The two ways to pass the check. -/
theorem precheckReconcile_ok :
    validateReconcileRequest request = .ok () ∧
      ((∃ prior, journal.reconciliations.find? request.reconcileId = some prior ∧
          checkReconcileRetry prior request = .ok ()) ∨
        (journal.reconciliations.find? request.reconcileId = none ∧
          ∃ row lateText, checkReconcileRecord runtime request journal = .ok (row, lateText))) := by
  unfold precheckReconcile at isAccepted
  obtain ⟨⟨⟩, isValid, rest⟩ := (bind_ok _).mp isAccepted
  refine ⟨isValid, ?_⟩
  cases isFound : journal.reconciliations.find? request.reconcileId with
  | some prior =>
      rw [isFound] at rest
      exact .inl ⟨prior, rfl, rest⟩
  | none =>
      rw [isFound] at rest
      obtain ⟨⟨row, lateText⟩, checked, -⟩ := (bind_ok _).mp rest
      exact .inr ⟨rfl, row, lateText, checked⟩

/-- After crash recovery, a request that was accepted is applied or answered as the
earlier one. -/
theorem reconcileMessage_of_precheck {openedAt reconciledAt : Int} :
    ∃ after outcome,
      reconcileMessage runtime request reconciledAt (holdExecuting openedAt journal) =
          .ok (after, outcome) ∧
        (outcome.isDuplicate = true → after = holdExecuting openedAt journal ∧
          ∃ prior, journal.reconciliations.find? request.reconcileId = some prior ∧
            checkReconcileRetry prior request = .ok () ∧
              outcome = ⟨prior.outcomePhase, prior.replyMessageId, true⟩) := by
  obtain ⟨isValid, ⟨prior, isFound, isRetry⟩ | ⟨isFresh, row, lateText, checked⟩⟩ :=
    precheckReconcile_ok isAccepted
  · refine ⟨_, _, reconcileMessage_repeats isValid isFound isRetry, fun _ => ⟨rfl, ?_⟩⟩
    exact ⟨prior, isFound, isRetry, rfl⟩
  · have stillFresh :
        (holdExecuting openedAt journal).reconciliations.find? request.reconcileId = none := isFresh
    obtain ⟨after, outcome, applied, isFirst⟩ := reconcileMessage_applies isValid stillFresh
      (checkReconcileRecord_holdExecuting checked)
    refine ⟨after, outcome, applied, fun isDuplicate => ?_⟩
    rw [isFirst] at isDuplicate
    cases isDuplicate

end

/-! ## Once for each id -/

attribute [ext] ReconcileRequest

theorem checkReconcileRetry_ok :
    checkReconcileRetry prior request = .ok () ↔
      prior.messageId = request.messageId ∧ prior.action = request.action ∧
        prior.expectedVersion = request.expectVersion ∧
        prior.lateResultSha256 = request.expectLateHash ∧ prior.note = request.note ∧
        (request.action = .markCompleted → prior.replyMessageId = request.expectReplyId) := by
  rw [checkReconcileRetry, require_ok]

section

variable (isValid : validateReconcileRequest request = .ok ())
include isValid

/-- Only a completion names a reply. -/
theorem expectReplyId_eq_none (notCompletes : request.action ≠ .markCompleted) :
    request.expectReplyId = none := by
  simp only [validateReconcileRequest, require_bind_ok] at isValid
  exact isValid.2.2.2.2.2.2.1 notCompletes

/-- The audit row of a request answers that request and no other. -/
theorem checkReconcileRetry_auditRow (otherValid : validateReconcileRequest other = .ok ())
    (sameId : other.reconcileId = request.reconcileId)
    (named : request.action = .markCompleted → outcome.replyMessageId = request.expectReplyId) :
    checkReconcileRetry (auditRow request row outcome now) other = .ok () ↔ other = request := by
  rw [checkReconcileRetry_ok]
  refine ⟨fun ⟨sameMessage, sameAction, sameVersion, sameHash, sameNote, sameReply⟩ => ?_, ?_⟩
  · change request.action = other.action at sameAction
    have replyId : other.expectReplyId = request.expectReplyId := by
      by_cases completes : request.action = .markCompleted
      · exact (sameReply (sameAction.symm.trans completes)).symm.trans (named completes)
      · rw [expectReplyId_eq_none isValid completes,
          expectReplyId_eq_none otherValid (sameAction ▸ completes)]
    exact ReconcileRequest.ext sameMessage.symm sameId sameAction.symm sameVersion.symm
      sameHash.symm replyId sameNote.symm
  · rintro rfl
    exact ⟨rfl, rfl, rfl, rfl, rfl, named⟩

end

/-- A run keeps every audit row. -/
theorem runFrom_audit {reconcileId : String} {row : ReconciliationRow} (host : Host)
    (labels : List HostLabel)
    (isFound : host.journal.reconciliations.find? reconcileId = some row) :
    ((hostMachine runtime).runFrom host labels).journal.reconciliations.find? reconcileId =
      some row :=
  @Machine.invariant_runFrom _ _ (hostMachine runtime)
    (fun host => host.journal.reconciliations.find? reconcileId = some row)
    (fun _ _ found => hostStep_grows.audit reconcileId row found) host isFound labels

/-- A journal with the audit row of a request answers that request from it and
refuses any other request with its id. -/
theorem reconcileMessage_audited {later : Int} (isValid : validateReconcileRequest request = .ok ())
    (named : request.action = .markCompleted → outcome.replyMessageId = request.expectReplyId)
    (isAudited : journal.reconciliations.find? request.reconcileId =
      some (auditRow request row outcome now)) (sameId : other.reconcileId = request.reconcileId) :
    (other = request → reconcileMessage runtime other later journal =
        .ok (journal, { outcome with isDuplicate := true })) ∧
      (other ≠ request →
        ∃ error, reconcileMessage runtime other later journal = .error error) := by
  refine ⟨fun same => ?_, fun differs => ?_⟩
  · subst same
    exact reconcileMessage_repeats isValid isAudited
      ((checkReconcileRetry_auditRow isValid isValid rfl named).mpr rfl)
  · cases isDone : reconcileMessage runtime other later journal with
    | error error => exact ⟨error, rfl⟩
    | ok result =>
        obtain ⟨after, answer⟩ := result
        obtain ⟨otherValid, otherEnd⟩ := reconcileMessage_ok isDone
        rw [← sameId] at isAudited
        exfalso
        cases otherEnd with
        | repeated prior isFound isRetry =>
            obtain rfl := Option.mem_unique isAudited isFound
            exact differs
              ((checkReconcileRetry_auditRow isValid otherValid sameId named).mp isRetry)
        | applied _ _ otherFresh => exact nomatch isAudited.symm.trans otherFresh

/-- Once a request is applied, its id is used for it alone, in every later state. -/
theorem reconcileMessage_once {now later : Int} {before : Journal}
    (applied : reconcileMessage runtime request now before = .ok (host.journal, outcome))
    (isFirst : outcome.isDuplicate = false) (labels : List HostLabel)
    (sameId : other.reconcileId = request.reconcileId) :
    let reached := ((hostMachine runtime).runFrom host labels).journal
    (other = request → reconcileMessage runtime other later reached =
        .ok (reached, { outcome with isDuplicate := true })) ∧
      (other ≠ request →
        ∃ error, reconcileMessage runtime other later reached = .error error) := by
  intro reached
  obtain ⟨isValid, reconcileEnd⟩ := reconcileMessage_ok applied
  cases reconcileEnd with
  | repeated => cases isFirst
  | applied row lateText isFresh checked _ named messages replies audited =>
      have isAudited : host.journal.reconciliations.find? request.reconcileId =
          some (auditRow request row outcome now) := by
        rw [audited, Table.find?_upsert]
        exact if_pos rfl
      exact reconcileMessage_audited isValid named (runFrom_audit host labels isAudited) sameId

/-! ## From the listing to the transaction -/

/-- What a held record allows beside the version and the late text. -/
def MessageRow.Allows (row : MessageRow) (replyIds : List String) : ReconcileAction → Prop
  | .markFailed => replyIds = []
  | .markCompleted => replyIds ≠ []
  | .acceptLateResult =>
      replyIds = [] ∧ (row.lateResultText.filter (· ≠ "")).isSome ∧
        (row.replyRouteKey.filter (· ≠ "")).isNone

/-- An action is listed when the record is held and allows it. -/
theorem mem_actions_heldView {replyIds : List String} {action : ReconcileAction} :
    action ∈ (heldView runtime row replyIds).actions ↔
      row.phase = .held ∧ row.Allows replyIds action := by
  unfold heldView MessageRow.Allows
  dsimp only
  generalize row.lateResultText.filter (· ≠ "") = late
  generalize row.replyRouteKey.filter (· ≠ "") = pin
  by_cases held : row.phase = .held
  · by_cases noReply : replyIds = []
    · cases action with
      | markFailed | markCompleted => simp [held, noReply]
      | acceptLateResult => cases late <;> cases pin <;> simp [held, noReply]
    · cases action with
      | markFailed | markCompleted | acceptLateResult => simp [held, noReply]
  · simp [held]

/-- The check of a record passes when the view is current, the late text is the
reviewed one and the record allows the action; a completion names one of the
replies, and an acceptance needs its reply id. -/
theorem checkReconcileRecord_iff (found : journal.messages.find? request.messageId = some row) :
    (∃ result, checkReconcileRecord runtime request journal = .ok result) ↔
      row.phase = .held ∧
        reconcileVersion runtime row (replyIdsFor journal request.messageId) =
          request.expectVersion ∧
        (row.lateResultText.filter (· ≠ "")).map runtime.sha256Hex = request.expectLateHash ∧
        row.Allows (replyIdsFor journal request.messageId) request.action ∧
        (request.action = .markCompleted → ∃ replyId ∈ request.expectReplyId,
          replyId ∈ replyIdsFor journal request.messageId) ∧
        (request.action = .acceptLateResult →
          journal.replies.find? (lateReplyId request.reconcileId) = none) := by
  unfold checkReconcileRecord
  rw [found]
  dsimp only
  cases isAction : request.action with
  | markFailed =>
      simp only [require_bind_ok, pure_ok, MessageRow.Allows]
      refine ⟨fun ⟨_, _, held, version, late, noReply, _⟩ => ⟨held, version, late, noReply, ?_⟩,
        fun ⟨held, version, late, noReply, _⟩ =>
          ⟨_, by rw [held]; decide, held, version, late, noReply, rfl⟩⟩
      exact ⟨nofun, nofun⟩
  | markCompleted =>
      simp only [require_bind_ok, pure_ok, MessageRow.Allows]
      refine ⟨fun ⟨_, _, held, version, late, ⟨replyId, isNamed, member⟩, _⟩ =>
          ⟨held, version, late, List.ne_nil_of_mem member, fun _ => ⟨replyId, isNamed, member⟩, ?_⟩,
        fun ⟨held, version, late, _, named, _⟩ =>
          ⟨_, by rw [held]; decide, held, version, late, named trivial, rfl⟩⟩
      exact nofun
  | acceptLateResult =>
      simp only [require_bind_ok, pure_ok, MessageRow.Allows]
      refine ⟨fun ⟨_, _, held, version, noReply, isLate, late, notPinned, isFree, _⟩ =>
          ⟨held, version, late, ⟨noReply, Option.isSome_map ▸ isLate, notPinned⟩, ?_, fun _ =>
            Option.isNone_iff_eq_none.mp isFree⟩,
        fun ⟨held, version, late, ⟨noReply, isLate, notPinned⟩, _, isFree⟩ =>
          ⟨_, by rw [held]; decide, held, version, noReply, Option.isSome_map.trans isLate, late,
            notPinned, Option.isNone_iff_eq_none.mpr (isFree trivial), rfl⟩⟩
      exact nofun

/-- Every message and reply id is an identifier. -/
structure Journal.Identified (journal : Journal) : Prop where
  messages : ∀ messageId, (journal.messages.find? messageId).isSome →
    isIdentifier messageId = true
  replies : ∀ replyId, (journal.replies.find? replyId).isSome → isIdentifier replyId = true

/-- The server lets only identifiers through, and the ids that the host draws are
identifiers. -/
def HostLabel.identified : HostLabel → Bool
  | .sendMessage _ envelope _ => isIdentifier envelope.messageId
  | .sendReply _ args _ => isIdentifier args.effectiveReplyId
  | .runnerCompleted _ replyId _ _ _ => isIdentifier replyId
  | _ => true

/-- The reply id of a valid reconciliation id is an identifier. -/
theorem isIdentifier_lateReplyId (isValid : validateReconcileRequest request = .ok ()) :
    isIdentifier (lateReplyId request.reconcileId) = true := by
  simp only [validateReconcileRequest, require_bind_ok] at isValid
  obtain ⟨-, short, allowed⟩ := matchesClass_iff.mp isValid.2.1
  have isJoined : (lateReplyId request.reconcileId).toList =
      "rep-rc-".toList ++ request.reconcileId.toList := String.toList_append
  refine matchesClass_iff.mpr ⟨?_, ?_, ?_⟩
  · rw [isJoined, List.length_append]
    exact Nat.le_add_right_of_le (by decide)
  · rw [isJoined, List.length_append]
    exact le_trans (Nat.add_le_add_left short _) (by decide)
  · rw [isJoined]
    intro c member
    rcases List.mem_append.mp member with isPrefix | isRest
    · have allAllowed : "rep-rc-".toList.all isIdentifierChar = true := by decide
      exact List.all_eq_true.mp allAllowed c isPrefix
    · exact allowed c isRest

theorem hostStep_identified {label : HostLabel} (isChecked : label.identified = true)
    (identified : host.journal.Identified) : (hostStep runtime host label).journal.Identified := by
  have grown : Grows label.addsMessage label.addsReply host.journal
      (hostStep runtime host label).journal := hostStep_grows
  refine ⟨fun messageId isThere => ?_, fun replyId isThere => ?_⟩
  · rcases grown.messages messageId isThere with isNew | isOld
    · cases label with
      | sendMessage => exact isNew ▸ isChecked
      | _ => exact isNew.elim
    · exact identified.messages messageId isOld
  · rcases grown.replies replyId isThere with isNew | isOld
    · cases label with
      | sendReply | runnerCompleted => exact isNew ▸ isChecked
      | reconcileMessage => exact isNew.2 ▸ isIdentifier_lateReplyId isNew.1
      | _ => exact isNew.elim
    · exact identified.replies replyId isOld

theorem run_identified {labels : List HostLabel}
    (isChecked : (hostMachine runtime).Along (fun _ label => label.identified = true)
      (hostMachine runtime).initial labels) :
    ((hostMachine runtime).run labels).journal.Identified := by
  refine @Machine.Along.invariant _ _ (hostMachine runtime) _ (fun host => host.journal.Identified)
    (fun _ _ isChecked identified => hostStep_identified isChecked identified) _ ?_ _ isChecked
  refine ⟨fun messageId isThere => ?_, fun replyId isThere => ?_⟩
  · cases isThere
  · cases isThere

/-- A digest is 64 hexadecimal digits. -/
structure JournalRuntime.HexDigests (runtime : JournalRuntime) : Prop where
  text : ∀ text, isHex64 (runtime.sha256Hex text) = true
  version : ∀ fields, isHex64 (runtime.hashVersion fields) = true

/-- The request is the one that the view asks for: its record, its version, its late
text and none but its replies. -/
structure HeldView.Asks (view : HeldView) (request : ReconcileRequest) : Prop where
  message : request.messageId = view.messageId
  version : view.version = some request.expectVersion
  lateResult : request.expectLateHash = view.lateResultSha256
  reply : ∀ replyId ∈ request.expectReplyId, replyId ∈ view.replyMessageIds

/-- A reconciliation id that was not used, and whose reply id was not either. -/
structure Journal.Fresh (journal : Journal) (reconcileId : String) : Prop where
  valid : matchesClass isIdentifierChar 1 128 reconcileId = true
  unaudited : journal.reconciliations.find? reconcileId = none
  replyFree : journal.replies.find? (lateReplyId reconcileId) = none

/-- The request that takes a listed action. -/
def HeldView.requestFor (view : HeldView) (action : ReconcileAction) (reconcileId : String) :
    ReconcileRequest where
  messageId := view.messageId
  reconcileId := reconcileId
  action := action
  expectVersion := view.version.getD ""
  expectLateHash := view.lateResultSha256
  expectReplyId := if action = .markCompleted then view.replyMessageIds.head? else none

/-- A listed reply is stored. -/
theorem mem_replyIdsFor {messageId replyId : String}
    (member : replyId ∈ replyIdsFor journal messageId) :
    (journal.replies.find? replyId).isSome = true := by
  rw [replyIdsFor, List.mem_mergeSort, List.mem_map] at member
  obtain ⟨reply, isReply, rfl⟩ := member
  rw [(Table.mem_select.mp isReply).1, Option.isSome_some]

/-- The view of a held or executing record. -/
theorem mem_heldViews {view : HeldView} (member : view ∈ heldViews runtime journal) :
    ∃ row, journal.messages.find? row.messageId = some row ∧
      view = heldView runtime row (replyIdsFor journal row.messageId) := by
  rw [heldViews, List.mem_map] at member
  obtain ⟨row, isOrdered, rfl⟩ := member
  rw [orderByCreated, List.mem_mergeSort] at isOrdered
  exact ⟨row, (Table.mem_select.mp isOrdered).1, rfl⟩

section

variable {view : HeldView}

variable {action : ReconcileAction}

/-- What a view asks for is a request of the right form. -/
theorem validate_requestFor (hex : runtime.HexDigests) (identified : journal.Identified)
    (member : view ∈ heldViews runtime journal) (isListed : action ∈ view.actions)
    {reconcileId : String} (isValidId : matchesClass isIdentifierChar 1 128 reconcileId = true) :
    validateReconcileRequest (view.requestFor action reconcileId) = .ok () := by
  obtain ⟨row, found, rfl⟩ := mem_heldViews member
  obtain ⟨held, allows⟩ := mem_actions_heldView.mp isListed
  simp only [validateReconcileRequest, require_bind_ok, require_ok]
  refine ⟨identified.messages row.messageId (by rw [found]; rfl), isValidId, ?_, ?_, ?_, ?_, ?_, ?_⟩
  · have isVersion : ((heldView runtime row (replyIdsFor journal row.messageId)).requestFor action
        reconcileId).expectVersion =
          reconcileVersion runtime row (replyIdsFor journal row.messageId) := by
      simp [HeldView.requestFor, heldView, held]
    rw [isVersion]
    exact hex.version _
  · intro hash isHash
    obtain ⟨late, -, rfl⟩ := Option.map_eq_some_iff.mp (Option.mem_def.mp isHash)
    exact hex.text late
  · intro accepts
    have isAction : action = .acceptLateResult := accepts
    rw [isAction] at allows
    exact Option.isSome_map.trans allows.2.1
  · intro completes
    have isAction : action = .markCompleted := completes
    rw [isAction] at allows
    obtain ⟨replyId, isHead⟩ : ∃ replyId,
        (replyIdsFor journal row.messageId).head? = some replyId :=
      Option.ne_none_iff_exists'.mp fun isNone => allows (List.head?_eq_none_iff.mp isNone)
    have isNamed : ((heldView runtime row (replyIdsFor journal row.messageId)).requestFor action
        reconcileId).expectReplyId = some replyId := (if_pos isAction).trans isHead
    rw [isNamed]
    exact identified.replies replyId (mem_replyIdsFor (List.mem_of_head? isHead))
  · exact fun notCompletes => if_neg notCompletes
  · intros; contradiction

section

variable (member : view ∈ heldViews runtime journal)
include member

theorem asks_requestFor (isListed : action ∈ view.actions) (reconcileId : String) :
    view.Asks (view.requestFor action reconcileId) := by
  obtain ⟨row, found, rfl⟩ := mem_heldViews member
  obtain ⟨held, -⟩ := mem_actions_heldView.mp isListed
  refine ⟨rfl, ?_, rfl, fun replyId isNamed => ?_⟩
  · simp [HeldView.requestFor, heldView, held]
  · have isHead := Option.mem_def.mp isNamed
    change (if action = .markCompleted then _ else none) = some replyId at isHead
    split at isHead
    · exact List.mem_of_head? isHead
    · cases isHead

/-- A well-formed request for a listed action is applied under a fresh id. -/
theorem applies_of_asks (asks : view.Asks request) (isListed : request.action ∈ view.actions)
    (isValid : validateReconcileRequest request = .ok ())
    (isFresh : journal.Fresh request.reconcileId) (now : Int) :
    ∃ after outcome, reconcileMessage runtime request now journal = .ok (after, outcome) ∧
      outcome.isDuplicate = false := by
  obtain ⟨row, found, rfl⟩ := mem_heldViews member
  obtain ⟨held, allows⟩ := mem_actions_heldView.mp isListed
  have sameMessage : request.messageId = row.messageId := asks.message
  rw [← sameMessage] at found allows
  have isVersion : some (reconcileVersion runtime row (replyIdsFor journal row.messageId)) =
      some request.expectVersion := by
    rw [← asks.version]
    simp [heldView, held]
  have named : request.action = .markCompleted → ∃ replyId ∈ request.expectReplyId,
      replyId ∈ replyIdsFor journal request.messageId := by
    intro completes
    simp only [validateReconcileRequest, require_bind_ok] at isValid
    obtain ⟨replyId, isNamed, -⟩ := (Option.any_eq_true _ _).mp (isValid.2.2.2.2.2.1 completes)
    exact ⟨replyId, isNamed, sameMessage ▸ asks.reply replyId isNamed⟩
  obtain ⟨⟨checkedRow, lateText⟩, checked⟩ := (checkReconcileRecord_iff found).mpr
    ⟨held, sameMessage ▸ Option.some.inj isVersion, asks.lateResult.symm, allows, named,
      fun _ => isFresh.replyFree⟩
  exact reconcileMessage_applies isValid isFresh.unaudited checked

/-- A request that is applied for a view takes an action that the view lists. -/
theorem mem_actions_of_applied (asks : view.Asks request)
    (unaudited : journal.reconciliations.find? request.reconcileId = none) {now : Int}
    {after : Journal} {outcome : ReconcileOutcome}
    (applied : reconcileMessage runtime request now journal = .ok (after, outcome)) :
    request.action ∈ view.actions := by
  obtain ⟨row, found, rfl⟩ := mem_heldViews member
  have sameMessage : request.messageId = row.messageId := asks.message
  obtain ⟨isValid, reconcileEnd⟩ := reconcileMessage_ok applied
  cases reconcileEnd with
  | repeated prior isFound => exact nomatch unaudited.symm.trans isFound
  | applied checkedRow lateText isFresh checked =>
      rw [← sameMessage] at found ⊢
      obtain ⟨held, -, -, allows, -⟩ := (checkReconcileRecord_iff found).mp ⟨_, checked⟩
      exact mem_actions_heldView.mpr ⟨held, allows⟩

end

end

end

/-! ## The three together -/

section

variable (runtime : JournalRuntime)

/-- The checks before the open decide what the transaction does: an accepted request
goes through after any normal open, and a refused open leaves the file as it was. -/
def PrecheckExact : Prop :=
  ∀ (request : ReconcileRequest) (stored : StoredJournal) (openedAt reconciledAt : Int),
    (stored.precheckReconcile runtime request = .ok () ∨
        (stored.createLocalMessagingJournal runtime (some request) openedAt).1 = .ok () →
      ∀ reconcileRequest, reconcileRequest = none ∨ reconcileRequest = some request →
        ∃ opened,
          stored.createLocalMessagingJournal runtime reconcileRequest openedAt = (.ok (), opened) ∧
          ∃ after outcome,
            reconcileMessage runtime request reconciledAt opened.read = .ok (after, outcome) ∧
            (outcome.isDuplicate = true → after = opened.read ∧
              ∃ prior, stored.read.reconciliations.find? request.reconcileId = some prior ∧
                checkReconcileRetry prior request = .ok () ∧
                  outcome = ⟨prior.outcomePhase, prior.replyMessageId, true⟩)) ∧
      ∀ error after,
        stored.createLocalMessagingJournal runtime (some request) openedAt = (.error error, after) →
          after = stored

/-- An applied request is answered with its first outcome whenever it is repeated,
and any other request with its id is refused. -/
def AppliesOnce : Prop :=
  ∀ (request : ReconcileRequest) (now : Int) (before : Journal) (host : Host)
    (outcome : ReconcileOutcome),
    reconcileMessage runtime request now before = .ok (host.journal, outcome) →
    outcome.isDuplicate = false →
    ∀ (labels : List HostLabel) (other : ReconcileRequest) (later : Int),
      other.reconcileId = request.reconcileId →
      let reached := ((hostMachine runtime).runFrom host labels).journal
      (other = request → reconcileMessage runtime other later reached =
          .ok (reached, { outcome with isDuplicate := true })) ∧
        (other ≠ request →
          ∃ error, reconcileMessage runtime other later reached = .error error)

/-- In every journal that the host reaches, the actions of a view are those of the
requests that are accepted for it. -/
def ListsAccepted : Prop :=
  ∀ labels, (hostMachine runtime).Along (fun _ label => label.identified = true)
      (hostMachine runtime).initial labels →
    let journal := ((hostMachine runtime).run labels).journal
    ∀ view ∈ heldViews runtime journal, ∀ (action : ReconcileAction) (now : Int),
      (∀ reconcileId, journal.Fresh reconcileId →
        (action ∈ view.actions ↔ ∃ request after outcome, request.reconcileId = reconcileId ∧
          request.action = action ∧ view.Asks request ∧
            reconcileMessage runtime request now journal = .ok (after, outcome))) ∧
      ∀ request after outcome, request.action = action → view.Asks request →
        journal.reconciliations.find? request.reconcileId = none →
        reconcileMessage runtime request now journal = .ok (after, outcome) →
          action ∈ view.actions

end

variable {runtime : JournalRuntime}

theorem precheck_exact : PrecheckExact runtime := by
  intro request stored openedAt reconciledAt
  refine ⟨fun isAccepted reconcileRequest isRequest => ?_, fun error after isRefused =>
    StoredJournal.createLocalMessagingJournal_error isRefused⟩
  have isEligible : stored.eligible runtime (some request) = .ok () := by
    rcases isAccepted with isAccepted | isOpened
    · exact StoredJournal.eligible_of_precheckReconcile isAccepted
    · unfold StoredJournal.createLocalMessagingJournal at isOpened
      split at isOpened
      · cases isOpened
      next isEligible => exact isEligible
  have isOpen : stored.createLocalMessagingJournal runtime reconcileRequest openedAt =
      (.ok (), stored.migrate.holdExecuting openedAt) := by
    refine StoredJournal.createLocalMessagingJournal_ok ?_
    rcases isRequest with rfl | rfl
    · rfl
    · exact isEligible
  refine ⟨_, isOpen, ?_⟩
  rw [StoredJournal.read_opened]
  exact reconcileMessage_of_precheck (StoredJournal.eligible_ok isEligible)

theorem lists_accepted (hex : runtime.HexDigests) : ListsAccepted runtime := by
  intro labels isChecked journal view member action now
  have identified : journal.Identified := run_identified isChecked
  refine ⟨fun reconcileId isFresh => ⟨fun isListed => ?_, ?_⟩, ?_⟩
  · have isValid := validate_requestFor hex identified member isListed isFresh.valid
    have asks := asks_requestFor member isListed reconcileId
    obtain ⟨after, outcome, applied, -⟩ := applies_of_asks member asks isListed isValid isFresh now
    exact ⟨_, after, outcome, rfl, rfl, asks, applied⟩
  · rintro ⟨request, after, outcome, rfl, rfl, asks, applied⟩
    exact mem_actions_of_applied member asks isFresh.unaudited applied
  · rintro request after outcome rfl asks unaudited applied
    exact mem_actions_of_applied member asks unaudited applied

/-- The listing, the checks before the open and the transaction agree on every
journal and request. -/
theorem reconciliation_exact (hex : runtime.HexDigests) :
    PrecheckExact runtime ∧ AppliesOnce runtime ∧ ListsAccepted runtime := by
  refine ⟨precheck_exact, ?_, lists_accepted hex⟩
  intro request now before host outcome applied isFirst labels other later sameId
  exact reconcileMessage_once applied isFirst labels sameId

/-- A file from before late results could be reconciled, with one record that is held. -/
def exampleFile : StoredJournal where
  messages := some
    { rows := [
        { messageId := "m1"
          sender := "a"
          recipient := "b"
          requestId := "m1"
          inReplyTo := none
          text := "work"
          metadataJson := none
          canonicalHash := ""
          phase := .held
          reason := some "crash_recovery"
          runtimeError := none
          createdAt := 1
          updatedAt := 2
          lateResultText := some (some "done")
          recipientType := none
          claimToken := none
          claimSessionId := none
          claimGeneration := none
          leaseExpiresAt := none
          claimOperationId := none
          toPrincipal := none
          resolvedVia := none
          replyRouteKey := none
          senderProvenanceJson := none }]
      distinct := by decide }
  replies := some .empty
  reconciliations := none
  pairAdmissions := none

/-- The digests of the one late text and of the one version of `exampleFile`. -/
def exampleDigests : JournalRuntime where
  computeEnvelopeHash := fun _ => ""
  sha256Hex := fun _ => "a4c3ed04a95a3da14a9d235c83d868bed7c0f45cf7f3faa751ee8f50598d2211"
  hashVersion := fun _ => "b156bd47cd7e56e79f323274f75a8968c18fa284e29f14832ad0c2eedf9fb181"

/-- The owner accepts the late text. -/
def exampleRequest : ReconcileRequest where
  messageId := "m1"
  reconcileId := "rc-1"
  action := .acceptLateResult
  expectVersion := "b156bd47cd7e56e79f323274f75a8968c18fa284e29f14832ad0c2eedf9fb181"
  expectLateHash := some "a4c3ed04a95a3da14a9d235c83d868bed7c0f45cf7f3faa751ee8f50598d2211"

theorem reconciliation_exact_example :
    ∃ opened, exampleFile.createLocalMessagingJournal exampleDigests none 5 = (.ok (), opened) ∧
      ∃ after outcome,
        reconcileMessage exampleDigests exampleRequest 6 opened.read = .ok (after, outcome) := by
  have isHex : isHex64 (exampleDigests.sha256Hex "") = true := by decide +kernel
  have isVersion : isHex64 exampleRequest.expectVersion = true := by decide +kernel
  have hex : exampleDigests.HexDigests := ⟨fun _ => isHex, fun _ => isVersion⟩
  have noReplies : replyIdsFor exampleFile.read "m1" = [] := List.mergeSort_nil
  have isValid : validateReconcileRequest exampleRequest = .ok () := by rfl
  obtain ⟨result, checked⟩ : ∃ result,
      checkReconcileRecord exampleDigests exampleRequest exampleFile.read = .ok result :=
    (checkReconcileRecord_iff rfl).mpr
      ⟨rfl, rfl, rfl, ⟨noReplies, rfl, rfl⟩, fun is => (nomatch is), fun _ => rfl⟩
  have isAccepted : exampleFile.precheckReconcile exampleDigests exampleRequest = .ok () := by
    unfold StoredJournal.precheckReconcile StoredJournal.precheckReconcileDatabase
    rw [isValid, checked]
    rfl
  have isExact := (reconciliation_exact hex).1 exampleRequest exampleFile 5 6
  obtain ⟨opened, isOpen, after, outcome, applied, -⟩ := isExact.1 (.inl isAccepted) none (.inl rfl)
  exact ⟨opened, isOpen, after, outcome, applied⟩

end Triangle.LocalMessaging
