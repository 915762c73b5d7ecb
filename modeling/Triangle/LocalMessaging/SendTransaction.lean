import Triangle.LocalMessaging.LifeMoves
import Triangle.Std.Transaction

/-!
# The transaction of a send

`recordSend` statement by statement, over the journal and the reply-route store
that share one connection. It writes the message before it has looked at the
session tables, pinned the route or measured the row, so only the transaction
keeps a send that throws from leaving anything behind.

What it comes to is `Triangle.LocalMessaging.recordSend` with the answers that
the stores give (`outcome_sendTransaction`).
-/

namespace Triangle.LocalMessaging

open Triangle.Std Triangle.Std.Text

/-- The tables behind one connection. -/
structure SendDatabase (Routes : Type) where
  journal : Journal
  replyRoutes : Routes

/-- What a send asks of the reply-route store and of the session tables.
`pinInTransaction` may write before it throws. -/
structure RouteStore (Routes : Type) where
  available : Bool
  attached : String → Int → Option String → Bool
  pinInTransaction : ReplyRoute → Routes → Outcome String × Routes

/-- The columns that a pin sets. -/
def setPin (messageId key : String) (provenance : Option Json) (journal : Journal) : Journal :=
  journal.updateMessages (·.messageId = messageId)
    (fun row => { row with
      replyRouteKey := some key
      senderProvenanceJson := provenance }) fun _ => rfl

section

variable {Routes : Type} (runtime : JournalRuntime) (store : RouteStore Routes)

/-- Work on the database of a send. -/
abbrev SendWork (Routes Answer : Type) := Work (SendDatabase Routes) MessagingError Answer

/-- `SELECT` on the journal. -/
def selectFrom {Answer : Type} (query : Journal → Answer) : SendWork Routes Answer :=
  Work.read fun database => query database.journal

/-- A statement that changes the journal. -/
def change (statement : Journal → Journal) : SendWork Routes Unit :=
  Work.write fun database => { database with journal := statement database.journal }

/-- The statements of a pin. -/
def pinStatements (envelope : Envelope) (options : SendOptions) : SendWork Routes Unit :=
  match options.replyRoute with
  | none => pure ()
  | some route => do
      Work.demand ((options.replySenderBindingId.filter (· ≠ "")).isSome)
        ⟨.sessionFenced, "Authenticated sender child required"⟩
      Work.demand (store.attached route.localAddress route.localGeneration none = true)
        ⟨.sessionFenced, "Pinned session attachment changed before journal commit"⟩
      Work.demand (store.attached route.remoteAddress route.remoteGeneration
          options.replySenderBindingId = true)
        ⟨.sessionFenced, "Pinned session attachment changed before journal commit"⟩
      let key ← Work.within SendDatabase.replyRoutes
        (fun database replyRoutes => { database with replyRoutes := replyRoutes })
        (store.pinInTransaction route)
      change (setPin envelope.messageId key options.senderProvenance)

/-- The statements between `BEGIN IMMEDIATE` and `COMMIT`. -/
def sendStatements (envelope : Envelope) (options : SendOptions) :
    SendWork Routes (Option MessageRow × Bool) := do
  let existing? ← selectFrom fun journal => journal.messages.find? envelope.messageId
  match existing? with
  | some existing =>
      Work.demand (existing.canonicalHash = runtime.computeEnvelopeHash envelope ∧
          existing.recipientType = options.recipientType ∧
          isRouteIntentMatch existing options.toPrincipal options.resolvedVia = true ∧
          existing.replyRouteKey = options.replyRoute.map (·.key))
        ⟨.duplicateIdConflict, "Conflicting envelope for messageId: " ++ envelope.messageId⟩
      return (some existing, true)
  | none =>
      let pairKey := pairKeyFor envelope.sender envelope.recipient
      let cutoff := options.now - runtime.pairWindowMs
      let count ← selectFrom fun journal => (journal.pairAdmissions.select fun admission =>
        admission.pairKey = pairKey && cutoff < admission.createdAt).length
      Work.demand (count < runtime.maxPairRequests)
        ⟨.exchangeLimitExceeded, "More than " ++ toString runtime.maxPairRequests ++
          " requests between these agents within " ++ toString runtime.pairWindowMs ++
          "ms; assuming a conversation loop"⟩
      change fun journal =>
        { journal with messages := journal.messages.upsert (queuedRow runtime envelope options) }
      pinStatements store envelope options
      let admitted ← selectFrom fun journal => journal.pairAdmissions.find? envelope.messageId
      Work.demand admitted.isNone
        ⟨.sqliteConstraint, "UNIQUE constraint failed: local_pair_admissions.message_id"⟩
      change fun journal =>
        { journal with
          pairAdmissions := journal.pairAdmissions.upsert
            { pairKey := pairKey, messageId := envelope.messageId, createdAt := options.now } }
      let row ← selectFrom fun journal => journal.messages.find? envelope.messageId
      Work.demand (options.replyRoute.isSome →
          ∀ stored ∈ row, (mapMessageRow stored).byteLength ≤ maxPayloadBytes - 4096)
        ⟨.payloadTooLarge, "Pinned request exceeds retrievable inbox envelope budget"⟩
      return (row, false)

/-- `recordSend`, as its statements run. -/
def sendTransaction (envelope : Envelope) (options : SendOptions) :
    SendWork Routes (Option MessageRow × Bool) := do
  Work.demand (envelope.sender ≠ "" ∧ envelope.recipient ≠ "" ∧ envelope.messageId ≠ "" ∧
      envelope.requestId ≠ "")
    ⟨.invalidEnvelope, "Envelope missing required fields"⟩
  Work.demand (∀ route ∈ options.replyRoute, store.available = true ∧
      route.requestId = envelope.requestId ∧ route.localAddress = envelope.recipient ∧
      route.remoteAddress = envelope.sender ∧ options.recipientType = .interactive)
    ⟨.invalidReplyRoute, "Reply pin must match the interactive request identities"⟩
  Work.transaction (sendStatements runtime store envelope options)

/-- What the stores answer while the database is as given. The reply side is not
asked by a send. -/
def RouteStore.answers (replyRoutes : Routes) : RouteAnswers where
  available := store.available
  attached := store.attached
  pinInTransaction route := (store.pinInTransaction route replyRoutes).1
  verifyInTransaction := .error ⟨.replyRouteMissing, "No pinned reply route"⟩
  advanceInTransaction := .error ⟨.replyRouteMissing, "No pinned reply route"⟩

/-- The routes after a send that admitted its message. -/
def RouteStore.pinned (options : SendOptions) (replyRoutes : Routes) : Routes :=
  match options.replyRoute with
  | none => replyRoutes
  | some route => (store.pinInTransaction route replyRoutes).2

section

variable {runtime : JournalRuntime} {store : RouteStore Routes} {envelope : Envelope}
  {options : SendOptions}

/-- The statements of a pin make of the inserted row what `pinReply` makes of it. -/
theorem outcome_pinStatements {journal : Journal} {replyRoutes : Routes} {row : MessageRow}
    (isRow : row.messageId = envelope.messageId) :
    (pinStatements store envelope options).outcome
        { journal := { journal with messages := journal.messages.upsert row }
          replyRoutes := replyRoutes } =
      (pinReply (store.answers replyRoutes) options row).map fun pinned =>
        ({ journal := { journal with messages := journal.messages.upsert pinned }
           replyRoutes := store.pinned options replyRoutes }, ()) := by
  unfold pinStatements pinReply RouteStore.pinned
  cases options.replyRoute with
  | none => rfl
  | some route =>
      have pinnedRow : ∀ key, setPin envelope.messageId key options.senderProvenance
          { journal with messages := journal.messages.upsert row } =
          { journal with
            messages := journal.messages.upsert
              { row with
                replyRouteKey := some key
                senderProvenanceJson := options.senderProvenance } } := by
        intro key
        rw [← isRow, setPin, Journal.updateMessages, Table.update_upsert]
      simp only [Work.outcome_demand_bind, Work.outcome_within_bind, change, Work.outcome_write,
        map_bind, pinnedRow, RouteStore.answers]
      rfl

/-- The transaction of a send comes to `recordSend`: what one throws, the other
throws, and where both return, the journal is the same. -/
theorem outcome_sendTransaction (journal : Journal) (replyRoutes : Routes) :
    (sendTransaction runtime store envelope options).outcome
        { journal := journal, replyRoutes := replyRoutes } =
      (recordSend runtime (store.answers replyRoutes) envelope options journal).map
        fun (after, row, isDuplicate) =>
          ({ journal := after
             replyRoutes := if isDuplicate then replyRoutes else store.pinned options replyRoutes },
            some row, isDuplicate) := by
  unfold sendTransaction recordSend
  simp only [Work.outcome_demand_bind, Work.outcome_transaction, map_bind]
  congr 1
  funext
  congr 1
  funext
  unfold sendStatements selectFrom
  rw [Work.outcome_read_bind]
  cases found : journal.messages.find? envelope.messageId with
  | some existing =>
      simp only [Work.outcome_demand_bind, map_bind, found]
      rfl
  | none =>
      simp only [Work.outcome_read_bind, Work.outcome_demand_bind, map_bind, found, change,
        Work.outcome_write_bind]
      congr 1
      funext
      rw [Work.outcome_bind, outcome_pinStatements rfl]
      cases pinned : pinReply (store.answers replyRoutes) options
          (queuedRow runtime envelope options) with
      | error problem => rfl
      | ok row =>
          have isRow : envelope.messageId = row.messageId := by
            rw [pinReply_columns pinned]
            rfl
          have stored : (journal.messages.upsert row).find? envelope.messageId = some row := by
            rw [Table.find?_upsert, if_pos isRow]
          rw [Except.map, ok_bind, ok_bind]
          simp only [Work.outcome_read_bind, Work.outcome_demand_bind, Work.outcome_write_bind,
            Work.outcome_pure, stored, Option.mem_some_iff, forall_eq']
          rfl

/-- A send that throws leaves messages, admissions and reply routes as they were. -/
theorem sendTransaction_allOrNothing : (sendTransaction runtime store envelope options).AllOrNothing :=
  .demand_bind (.demand_bind Work.allOrNothing_transaction)

end

end

end Triangle.LocalMessaging
