import Triangle.LocalMessaging.Reconcile

/-!
# The journal file

A file that an earlier version wrote may lack columns and whole tables. The
normal open adds what is missing and holds every execution that was cut off.
The owner looks at the file as it is, where a missing column reads as
`undefined`: to list what is held, and to refuse a request before the open could
have changed anything.

A file that does not exist yet is one without tables. The names of the file, its
lock and its adoption from an earlier name are left out.
-/

namespace Triangle.LocalMessaging

open Triangle.Std

/-- A nullable column that a migration may have added; `none` while the table
lacks it. -/
abbrev Column (Value : Type) := Option (Option Value)

/-- `row.column ?? null`. -/
def Column.read {Value : Type} (column : Column Value) : Option Value :=
  column.join

/-- `ALTER TABLE … ADD COLUMN`, unless the table has the column. -/
def Column.add {Value : Type} (column : Column Value) : Column Value :=
  some column.read

/-- A row of `local_messages` in a file of any age. -/
structure StoredMessageRow where
  messageId : String
  sender : String
  recipient : String
  requestId : String
  inReplyTo : Option String
  text : String
  metadataJson : Option Metadata
  canonicalHash : String
  phase : Phase
  reason : Option String
  runtimeError : Option String
  createdAt : Int
  updatedAt : Int
  lateResultText : Column String
  /-- `NOT NULL DEFAULT 'runner'`. -/
  recipientType : Option RecipientType
  claimToken : Column String
  claimSessionId : Column String
  claimGeneration : Column Int
  leaseExpiresAt : Column Int
  claimOperationId : Column String
  toPrincipal : Column String
  resolvedVia : Column ResolvedVia
  replyRouteKey : Column String
  senderProvenanceJson : Column Json

/-- A row of `local_replies` in a file of any age. -/
structure StoredReplyRow where
  messageId : String
  sender : String
  recipient : String
  requestId : String
  inReplyTo : String
  text : String
  metadataJson : Option Metadata
  canonicalHash : String
  consumed : Bool
  createdAt : Int
  updatedAt : Int
  senderProvenanceJson : Column Json
  reconcileId : Column String

/-- The tables of a file; `none` is a missing table. -/
structure StoredJournal where
  messages : Option (Table StoredMessageRow.messageId)
  replies : Option (Table StoredReplyRow.messageId)
  reconciliations : Option (Table ReconciliationRow.reconcileId)
  pairAdmissions : Option (Table PairAdmission.messageId)

/-- The row as the code reads it. -/
def StoredMessageRow.read (row : StoredMessageRow) : MessageRow where
  messageId := row.messageId
  sender := row.sender
  recipient := row.recipient
  recipientType := row.recipientType.getD .runner
  requestId := row.requestId
  inReplyTo := row.inReplyTo
  text := row.text
  metadataJson := row.metadataJson
  canonicalHash := row.canonicalHash
  phase := row.phase
  createdAt := row.createdAt
  updatedAt := row.updatedAt
  toPrincipal := row.toPrincipal.read
  resolvedVia := row.resolvedVia.read
  reason := row.reason
  runtimeError := row.runtimeError
  replyRouteKey := row.replyRouteKey.read
  senderProvenanceJson := row.senderProvenanceJson.read
  lateResultText := row.lateResultText.read
  claimToken := row.claimToken.read
  claimSessionId := row.claimSessionId.read
  claimGeneration := row.claimGeneration.read
  claimOperationId := row.claimOperationId.read
  leaseExpiresAt := row.leaseExpiresAt.read

/-- The reply as the code reads it. -/
def StoredReplyRow.read (row : StoredReplyRow) : ReplyRow where
  messageId := row.messageId
  sender := row.sender
  recipient := row.recipient
  requestId := row.requestId
  inReplyTo := row.inReplyTo
  text := row.text
  metadataJson := row.metadataJson
  canonicalHash := row.canonicalHash
  consumed := row.consumed
  createdAt := row.createdAt
  updatedAt := row.updatedAt
  senderProvenanceJson := row.senderProvenanceJson.read
  reconcileId := row.reconcileId.read

/-- The additive migrations of `local_messages`. -/
def StoredMessageRow.addColumns (row : StoredMessageRow) : StoredMessageRow :=
  { row with
    lateResultText := row.lateResultText.add
    recipientType := some (row.recipientType.getD .runner)
    claimToken := row.claimToken.add
    claimSessionId := row.claimSessionId.add
    claimGeneration := row.claimGeneration.add
    leaseExpiresAt := row.leaseExpiresAt.add
    claimOperationId := row.claimOperationId.add
    toPrincipal := row.toPrincipal.add
    resolvedVia := row.resolvedVia.add
    replyRouteKey := row.replyRouteKey.add
    senderProvenanceJson := row.senderProvenanceJson.add }

/-- The additive migrations of `local_replies`. -/
def StoredReplyRow.addColumns (row : StoredReplyRow) : StoredReplyRow :=
  { row with
    senderProvenanceJson := row.senderProvenanceJson.add
    reconcileId := row.reconcileId.add }

namespace StoredJournal

/-- The tables as the code reads them; a missing table has no rows. -/
def read (stored : StoredJournal) : Journal where
  messages := (stored.messages.getD .empty).map StoredMessageRow.read fun _ => rfl
  replies := (stored.replies.getD .empty).map StoredReplyRow.read fun _ => rfl
  reconciliations := stored.reconciliations.getD .empty
  pairAdmissions := stored.pairAdmissions.getD .empty

/-- The schema initialization: missing tables, then missing columns. -/
def migrate (stored : StoredJournal) : StoredJournal where
  messages := some
    ((stored.messages.getD .empty).map StoredMessageRow.addColumns fun _ => rfl)
  replies := some ((stored.replies.getD .empty).map StoredReplyRow.addColumns fun _ => rfl)
  reconciliations := some (stored.reconciliations.getD .empty)
  pairAdmissions := some (stored.pairAdmissions.getD .empty)

/-- The open's crash recovery. -/
def holdExecuting (now : Int) (stored : StoredJournal) : StoredJournal :=
  { stored with
    messages := stored.messages.map fun messages =>
      messages.update (fun row => row.phase = .executing)
        (fun row => { row with
          phase := .held
          reason := some "crash_recovery"
          updatedAt := now }) fun _ _ => rfl }

end StoredJournal

/-- The owner's view of one record that is held or executing. -/
structure HeldView where
  messageId : String
  requestId : String
  sender : String
  recipient : String
  recipientType : RecipientType
  phase : Phase
  reason : Option String
  effective : Option (Phase × String)
  createdAt : Int
  updatedAt : Int
  leaseExpiresAt : Option Int
  pinned : Bool
  hasLateResult : Bool
  lateResultBytes : Nat
  lateResultSha256 : Option String
  replyMessageIds : List String
  version : Option String
  actions : List ReconcileAction

section

variable (runtime : JournalRuntime)

/-- `heldView`. -/
def heldView (row : MessageRow) (replyIds : List String) : HeldView :=
  let held : Bool := row.phase = .held
  let pinned := (row.replyRouteKey.filter (· ≠ "")).isSome
  let late := row.lateResultText.filter (· ≠ "")
  let actions : List ReconcileAction :=
    if held && replyIds ≠ [] then [.markCompleted]
    else if held then
      .markFailed :: if late.isSome && !pinned then [.acceptLateResult] else []
    else []
  { messageId := row.messageId
    requestId := row.requestId
    sender := row.sender
    recipient := row.recipient
    recipientType := row.recipientType
    phase := row.phase
    reason := row.reason
    effective := if held then none else some (.held, "crash_recovery")
    createdAt := row.createdAt
    updatedAt := row.updatedAt
    leaseExpiresAt := row.leaseExpiresAt
    pinned := pinned
    hasLateResult := late.isSome
    lateResultBytes := (late.map String.utf8ByteSize).getD 0
    lateResultSha256 := late.map runtime.sha256Hex
    replyMessageIds := replyIds
    version := if held then some (reconcileVersion runtime row replyIds) else none
    actions := actions }

/-- The views of a journal, the oldest record first. -/
def heldViews (journal : Journal) : List HeldView :=
  (orderByCreated MessageRow.createdAt MessageRow.messageId
    (journal.messages.select fun row => row.phase = .held || row.phase = .executing)).map
      fun row => heldView runtime row (replyIdsFor journal row.messageId)

namespace StoredJournal

/-- `precheckReconcileDatabase`. The replies are selected for a held record only. -/
def precheckReconcileDatabase (request : ReconcileRequest) (stored : StoredJournal) :
    Outcome Unit :=
  match stored.read.reconciliations.find? request.reconcileId with
  | some prior => checkReconcileRetry prior request
  | none => do
      require stored.messages.isSome ⟨.sqliteError, "no such table: local_messages"⟩
      require (stored.replies.isSome ∨
          ∀ row ∈ stored.read.messages.find? request.messageId, row.phase ≠ .held)
        ⟨.sqliteError, "no such table: local_replies"⟩
      let _ ← checkReconcileRecord runtime request stored.read
      return ()

/-- `precheckReconcile`; it has the file open for reading only. -/
def precheckReconcile (request : ReconcileRequest) (stored : StoredJournal) : Outcome Unit := do
  validateReconcileRequest request
  require stored.messages.isSome
    ⟨.notFound, "Message " ++ request.messageId ++ " not found"⟩
  stored.precheckReconcileDatabase runtime request

/-- The eligibility check of `createLocalMessagingJournal`. -/
def eligible (reconcileRequest : Option ReconcileRequest) (stored : StoredJournal) :
    Outcome Unit :=
  match reconcileRequest with
  | none => .ok ()
  | some request => do
      validateReconcileRequest request
      stored.precheckReconcileDatabase runtime request

/-- `createLocalMessagingJournal`: how the open ends and the file it leaves. -/
def createLocalMessagingJournal (reconcileRequest : Option ReconcileRequest) (now : Int)
    (stored : StoredJournal) : Outcome Unit × StoredJournal :=
  match stored.eligible runtime reconcileRequest with
  | .error error => (.error error, stored)
  | .ok () => (.ok (), stored.migrate.holdExecuting now)

end StoredJournal

end

/-! ## What an open leaves to be read -/

theorem StoredMessageRow.read_addColumns (row : StoredMessageRow) :
    row.addColumns.read = row.read := rfl

theorem StoredReplyRow.read_addColumns (row : StoredReplyRow) :
    row.addColumns.read = row.read := rfl

namespace StoredJournal

/-- Migrating changes nothing that the code reads. -/
theorem read_migrate (stored : StoredJournal) : stored.migrate.read = stored.read := by
  have sameMessages : stored.migrate.read.messages = stored.read.messages := by
    ext1
    change ((stored.messages.getD .empty).rows.map _).map _ = (stored.messages.getD .empty).rows.map _
    rw [List.map_map]
    exact List.map_congr_left fun row _ => row.read_addColumns
  have sameReplies : stored.migrate.read.replies = stored.read.replies := by
    ext1
    change ((stored.replies.getD .empty).rows.map _).map _ = (stored.replies.getD .empty).rows.map _
    rw [List.map_map]
    exact List.map_congr_left fun row _ => row.read_addColumns
  unfold read at sameMessages sameReplies ⊢
  dsimp only at sameMessages sameReplies
  rw [sameMessages, sameReplies]
  rfl

/-- Crash recovery holds the same records in the file and in what is read of it. -/
theorem read_holdExecuting (now : Int) (stored : StoredJournal) :
    (stored.holdExecuting now).read = LocalMessaging.holdExecuting now stored.read := by
  have sameMessages : (stored.holdExecuting now).read.messages =
      (LocalMessaging.holdExecuting now stored.read).messages := by
    ext1
    cases isMessages : stored.messages with
    | none =>
        unfold read holdExecuting
        rw [isMessages]
        rfl
    | some messages =>
        unfold read holdExecuting
        rw [isMessages]
        change (messages.rows.map _).map _ = (messages.rows.map _).map _
        rw [List.map_map, List.map_map]
        refine List.map_congr_left fun row _ => ?_
        change StoredMessageRow.read (if decide (row.phase = .executing) then _ else row) =
          if decide (row.phase = .executing) then _ else row.read
        split
        · rfl
        · rfl
  unfold read LocalMessaging.holdExecuting Journal.updateMessages at sameMessages ⊢
  dsimp only at sameMessages ⊢
  rw [sameMessages]
  rfl

variable {runtime : JournalRuntime} {request : ReconcileRequest} {stored : StoredJournal}

variable {reconcileRequest : Option ReconcileRequest}

/-- An open that was not refused leaves the migrated file with its cut-off
executions held. -/
theorem createLocalMessagingJournal_ok {now : Int}
    (isEligible : stored.eligible runtime reconcileRequest = .ok ()) :
    stored.createLocalMessagingJournal runtime reconcileRequest now =
      (.ok (), stored.migrate.holdExecuting now) := by
  rw [createLocalMessagingJournal, isEligible]

theorem read_opened (now : Int) :
    (stored.migrate.holdExecuting now).read = LocalMessaging.holdExecuting now stored.read := by
  rw [read_holdExecuting, read_migrate]

/-- A refused open leaves the file as it was. -/
theorem createLocalMessagingJournal_error {now : Int} {error : MessagingError}
    {after : StoredJournal}
    (isRefused : stored.createLocalMessagingJournal runtime reconcileRequest now =
      (.error error, after)) : after = stored := by
  unfold createLocalMessagingJournal at isRefused
  split at isRefused
  · exact (Prod.mk.inj isRefused).2.symm
  · cases (Prod.mk.inj isRefused).1

/-- What the check on the file accepts, the check on what is read of it accepts. -/
theorem precheckReconcileDatabase_ok
    (isValid : validateReconcileRequest request = .ok ())
    (isAccepted : stored.precheckReconcileDatabase runtime request = .ok ()) :
    LocalMessaging.precheckReconcile runtime request stored.read = .ok () := by
  unfold LocalMessaging.precheckReconcile
  unfold precheckReconcileDatabase at isAccepted
  rw [isValid, ok_bind]
  cases isFound : stored.read.reconciliations.find? request.reconcileId with
  | some prior =>
      rw [isFound] at isAccepted
      exact isAccepted
  | none =>
      rw [isFound] at isAccepted
      simp only [require_bind_ok] at isAccepted
      exact isAccepted.2.2

theorem eligible_ok (isEligible : stored.eligible runtime (some request) = .ok ()) :
    LocalMessaging.precheckReconcile runtime request stored.read = .ok () := by
  unfold eligible at isEligible
  obtain ⟨⟨⟩, isValid, isAccepted⟩ := (bind_ok _).mp isEligible
  exact precheckReconcileDatabase_ok isValid isAccepted

/-- The check made before the journal is opened is the open's own check on a file
that has messages. -/
theorem eligible_of_precheckReconcile
    (isAccepted : stored.precheckReconcile runtime request = .ok ()) :
    stored.eligible runtime (some request) = .ok () := by
  unfold precheckReconcile at isAccepted
  obtain ⟨⟨⟩, isValid, rest⟩ := (bind_ok _).mp isAccepted
  rw [require_bind_ok] at rest
  rw [eligible, isValid, ok_bind]
  exact rest.2

end StoredJournal

end Triangle.LocalMessaging
