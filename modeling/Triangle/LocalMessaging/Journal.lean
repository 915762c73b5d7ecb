import Triangle.LocalMessaging.Store
import Triangle.Std.CanonicalJson

/-!
# Sending, executing and compacting

The journal functions behind `send_message`, the dispatcher and retention. A
function that throws has rolled its transaction back, so its error carries no
new journal.

Hashes are functions of the runtime: nothing here depends on how they are
computed. The stores behind a pinned reply route answer through `RouteAnswers`.
-/

namespace Triangle.LocalMessaging

open Triangle.Std Triangle.Std.Text

/-- A message or reply as its caller hands it in. -/
structure Envelope where
  sender : String
  recipient : String
  messageId : String
  requestId : String
  inReplyTo : Option String
  text : String
  metadata : Option Metadata

/-- What `reconcileVersion` hashes. -/
structure VersionFields where
  messageId : String
  phase : Phase
  reason : Option String
  updatedAt : Int
  leaseExpiresAt : Option Int
  claimOperationId : Option String
  lateResultSha256 : Option String
  replyIds : List String

/-- The hashes and the configuration of a journal. -/
structure JournalRuntime where
  computeEnvelopeHash : Envelope → String
  sha256Hex : String → String
  hashVersion : VersionFields → String
  maxPairRequests : Nat := 10
  pairWindowMs : Int := 10 * 60 * 1000

/-- A reply route pinned to a request. -/
structure ReplyRoute where
  key : String
  requestId : String
  localAddress : String
  localGeneration : Int
  remoteAddress : String
  remoteGeneration : Int

/-- Both ends of a pinned route, as verified. -/
structure PinAdvance where
  localAddress : String
  localGeneration : Int
  remoteAddress : String

/-- What the session tables and the reply-route store answer inside one call. -/
structure RouteAnswers where
  available : Bool
  attached : String → Int → Option String → Bool
  pinInTransaction : ReplyRoute → Outcome String
  verifyInTransaction : Outcome PinAdvance
  advanceInTransaction : Outcome Unit

/-- `{ ...fields, _loopDepth: depth }`. -/
def Metadata.withDepth (fields : List (String × Json)) (depth : Int) : Metadata where
  others := fields.filter fun field => field.1 ≠ "_loopDepth"
  loopDepth := depth

/-- `metadata?._loopDepth ?? 1`. -/
def loopDepthOf (metadata : Option Metadata) : Int :=
  (metadata.map Metadata.loopDepth).getD 1

/-- The stored texts of the enumerations. -/
def Phase.name : Phase → String
  | .queuedLocal => "queued_local"
  | .executing => "executing"
  | .completed => "completed"
  | .held => "held"
  | .failed => "failed"

/-- The stored text of a recipient type. -/
def RecipientType.name : RecipientType → String
  | .runner => "runner"
  | .interactive => "interactive"

/-- The stored text of `resolved_via`. -/
def ResolvedVia.name : ResolvedVia → String
  | .id => "id"
  | .principal => "principal"

/-- A nullable text column as JSON. -/
def jsonOrNull (value : Option String) : Json :=
  (value.map Json.str).getD .null

/-- A nullable integer column as JSON. -/
def intOrNull (value : Option Int) : Json :=
  (value.map Json.int).getD .null

/-- Stored metadata as JSON. -/
def Metadata.toJson (metadata : Metadata) : Json :=
  .obj (metadata.others ++ [("_loopDepth", .int metadata.loopDepth)])

/-- `mapMessageRow`, the public view of a message. -/
def mapMessageRow (row : MessageRow) : Json :=
  .obj ([("messageId", .str row.messageId)] ++
    (row.senderProvenanceJson.map fun json => ("senderProvenance", json)).toList ++
    [("sender", .str row.sender),
      ("recipient", .str row.recipient),
      ("recipientType", .str row.recipientType.name),
      ("requestId", .str row.requestId),
      ("inReplyTo", jsonOrNull row.inReplyTo),
      ("text", .str row.text),
      ("metadata", (row.metadataJson.map Metadata.toJson).getD .null)] ++
    (row.metadataJson.map fun metadata => ("loopDepth", Json.int metadata.loopDepth)).toList ++
    [("phase", .str row.phase.name),
      ("reason", jsonOrNull row.reason),
      ("runtimeError", jsonOrNull row.runtimeError),
      ("claimSessionId", jsonOrNull row.claimSessionId),
      ("claimGeneration", intOrNull row.claimGeneration),
      ("leaseExpiresAt", intOrNull row.leaseExpiresAt),
      ("hasLateResult", .bool (row.lateResultText.any (· ≠ ""))),
      ("createdAt", .int row.createdAt),
      ("updatedAt", .int row.updatedAt),
      ("to_principal", jsonOrNull row.toPrincipal),
      ("resolved_via", jsonOrNull (row.resolvedVia.map ResolvedVia.name))])

/-- `MAX_PAYLOAD_BYTES`. -/
def maxPayloadBytes : Nat := 256 * 1024

/-- `pairKeyFor`; `<` compares the code units. -/
def pairKeyFor (first second : String) : String :=
  if Json.codeUnits first < Json.codeUnits second then first ++ "\x00" ++ second else second ++ "\x00" ++ first

/-- `isRouteIntentMatch`. -/
def isRouteIntentMatch (existing : MessageRow) (principal : Option String)
    (via : Option ResolvedVia) : Bool :=
  if existing.toPrincipal ≠ principal then false
  else if existing.toPrincipal ≠ none then
    existing.resolvedVia = some .principal && via = some .principal
  else if existing.resolvedVia = some .principal || via = some .principal then false
  else if existing.resolvedVia = none || via = none then true
  else existing.resolvedVia = via

/-- Change the message rows that `selected` picks. -/
def Journal.updateMessages (journal : Journal) (selected : MessageRow → Bool)
    (change : MessageRow → MessageRow)
    (keeps : ∀ row, (change row).messageId = row.messageId) : Journal :=
  { journal with messages := journal.messages.update selected change fun row _ => keeps row }

/-- Arguments of `recordSend` beside the envelope. -/
structure SendOptions where
  recipientType : RecipientType := .runner
  toPrincipal : Option String := none
  resolvedVia : Option ResolvedVia := none
  replyRoute : Option ReplyRoute := none
  replySenderBindingId : Option String := none
  senderProvenance : Option Json := none
  now : Int

/-- The reply pin of a send, checked and stored. -/
def pinReply (answers : RouteAnswers) (options : SendOptions) (row : MessageRow) :
    Outcome MessageRow :=
  match options.replyRoute with
  | none => .ok row
  | some route => do
      require ((options.replySenderBindingId.filter (· ≠ "")).isSome)
        ⟨.sessionFenced, "Authenticated sender child required"⟩
      require (answers.attached route.localAddress route.localGeneration none = true)
        ⟨.sessionFenced, "Pinned session attachment changed before journal commit"⟩
      require (answers.attached route.remoteAddress route.remoteGeneration
          options.replySenderBindingId = true)
        ⟨.sessionFenced, "Pinned session attachment changed before journal commit"⟩
      let key ← answers.pinInTransaction route
      return { row with
        replyRouteKey := some key
        senderProvenanceJson := options.senderProvenance }

section

variable (runtime : JournalRuntime)

/-- The row a send inserts. -/
def queuedRow (envelope : Envelope) (options : SendOptions) : MessageRow where
  messageId := envelope.messageId
  sender := envelope.sender
  recipient := envelope.recipient
  recipientType := options.recipientType
  requestId := envelope.requestId
  inReplyTo := envelope.inReplyTo
  text := envelope.text
  metadataJson := envelope.metadata
  canonicalHash := runtime.computeEnvelopeHash envelope
  phase := .queuedLocal
  createdAt := options.now
  updatedAt := options.now
  toPrincipal := options.toPrincipal
  resolvedVia := options.resolvedVia

/-- `recordSend`; the flag is `isDuplicate`. -/
def recordSend (answers : RouteAnswers) (envelope : Envelope) (options : SendOptions)
    (journal : Journal) : Outcome (Journal × MessageRow × Bool) := do
  require (envelope.sender ≠ "" ∧ envelope.recipient ≠ "" ∧ envelope.messageId ≠ "" ∧
      envelope.requestId ≠ "")
    ⟨.invalidEnvelope, "Envelope missing required fields"⟩
  require (∀ route ∈ options.replyRoute, answers.available = true ∧
      route.requestId = envelope.requestId ∧ route.localAddress = envelope.recipient ∧
      route.remoteAddress = envelope.sender ∧ options.recipientType = .interactive)
    ⟨.invalidReplyRoute, "Reply pin must match the interactive request identities"⟩
  match journal.messages.find? envelope.messageId with
  | some existing =>
      require (existing.canonicalHash = runtime.computeEnvelopeHash envelope ∧
          existing.recipientType = options.recipientType ∧
          isRouteIntentMatch existing options.toPrincipal options.resolvedVia = true ∧
          existing.replyRouteKey = options.replyRoute.map (·.key))
        ⟨.duplicateIdConflict, "Conflicting envelope for messageId: " ++ envelope.messageId⟩
      return (journal, existing, true)
  | none =>
      let pairKey := pairKeyFor envelope.sender envelope.recipient
      let cutoff := options.now - runtime.pairWindowMs
      require ((journal.pairAdmissions.select fun admission =>
          admission.pairKey = pairKey && cutoff < admission.createdAt).length
            < runtime.maxPairRequests)
        ⟨.exchangeLimitExceeded, "More than " ++ toString runtime.maxPairRequests ++
          " requests between these agents within " ++ toString runtime.pairWindowMs ++
          "ms; assuming a conversation loop"⟩
      let row ← pinReply answers options (queuedRow runtime envelope options)
      require ((journal.pairAdmissions.find? envelope.messageId).isNone)
        ⟨.sqliteConstraint, "UNIQUE constraint failed: local_pair_admissions.message_id"⟩
      require (options.replyRoute.isSome →
          (mapMessageRow row).byteLength ≤ maxPayloadBytes - 4096)
        ⟨.payloadTooLarge, "Pinned request exceeds retrievable inbox envelope budget"⟩
      return ({ journal with
          messages := journal.messages.upsert row
          pairAdmissions := journal.pairAdmissions.upsert
            { pairKey := pairKey, messageId := envelope.messageId, createdAt := options.now } },
        row, false)

/-- `recordReplySync`; the flag is `isDuplicate`. -/
def recordReplySync (envelope : Envelope) (now : Int) (journal : Journal) :
    Outcome (Journal × ReplyRow × Bool) := do
  require (envelope.sender ≠ "" ∧ envelope.recipient ≠ "" ∧ envelope.messageId ≠ "" ∧
      envelope.requestId ≠ "" ∧ (envelope.inReplyTo.filter (· ≠ "")).isSome)
    ⟨.invalidEnvelope, "Reply envelope missing required fields"⟩
  let inReplyTo := envelope.inReplyTo.getD ""
  match journal.messages.find? inReplyTo with
  | none =>
      .error ⟨.invalidReplyCorrelation, "Original message " ++ inReplyTo ++ " not found"⟩
  | some original =>
      require (envelope.recipient = original.sender)
        ⟨.invalidReplyRecipient, "Reply recipient " ++ envelope.recipient ++
          " does not match original sender " ++ original.sender⟩
      require (envelope.sender = original.recipient)
        ⟨.invalidReplySender, "Reply sender " ++ envelope.sender ++
          " does not match original recipient " ++ original.recipient⟩
      require (envelope.requestId = original.requestId)
        ⟨.invalidReplyCorrelation, "Reply requestId " ++ envelope.requestId ++
          " does not match original requestId " ++ original.requestId⟩
      let hash := runtime.computeEnvelopeHash envelope
      match journal.replies.find? envelope.messageId with
      | some existing =>
          require (existing.canonicalHash = hash)
            ⟨.duplicateIdConflict, "Conflicting reply for messageId: " ++ envelope.messageId⟩
          return (journal, existing, true)
      | none =>
          let row : ReplyRow :=
            { messageId := envelope.messageId
              sender := envelope.sender
              recipient := envelope.recipient
              requestId := envelope.requestId
              inReplyTo := inReplyTo
              text := envelope.text
              metadataJson := envelope.metadata
              canonicalHash := hash
              consumed := false
              createdAt := now
              updatedAt := now }
          return ({ journal with replies := journal.replies.upsert row }, row, false)

/-- The replies to a message. -/
def repliesTo (journal : Journal) (messageId : String) : List ReplyRow :=
  journal.replies.select (·.inReplyTo = messageId)

/-- `completeExecutionWithReply`: one transaction stores the reply and completes
the record. -/
def completeExecutionWithReply (envelope : Envelope) (now : Int) (journal : Journal) :
    Outcome (Journal × ReplyRow) := do
  require envelope.inReplyTo.isSome
    ⟨.invalidEnvelope, "A correlated runner reply is required"⟩
  let inReplyTo := envelope.inReplyTo.getD ""
  match journal.messages.find? inReplyTo with
  | none => .error ⟨.invalidReplyCorrelation, "Original runner request not found"⟩
  | some original =>
      require (original.recipientType = .runner ∧
          (original.replyRouteKey.filter (· ≠ "")).isNone)
        ⟨.invalidRecipientType, "Atomic runner completion requires an unpinned runner request"⟩
      require (original.phase = .executing ∨ original.phase = .completed)
        ⟨.executionNotActive, "Runner request is not executing or completed"⟩
      let stored := (repliesTo journal inReplyTo).head?
      require (∀ reply ∈ stored, reply.messageId = envelope.messageId)
        ⟨.duplicateIdConflict, "A different reply already exists for this runner request"⟩
      require (original.phase = .completed → stored.isSome)
        ⟨.executionNotActive, "Completed runner request has no stored reply"⟩
      let (replied, reply, _) ← recordReplySync runtime envelope now journal
      if original.phase = .executing then
        return (replied.updateMessages
          (fun row => row.messageId = original.messageId && row.phase = .executing)
          (fun row => { row with phase := .completed, updatedAt := now }) fun _ => rfl, reply)
      else return (replied, reply)

end

/-- `consumeReply`. -/
def consumeReply (requester messageId : String) (now : Int) (journal : Journal) :
    Outcome Journal := do
  require (requester ≠ "" ∧ messageId ≠ "")
    ⟨.invalidParams, "requester and messageId are required"⟩
  match journal.replies.find? messageId with
  | none => .error ⟨.replyNotFound, "Reply " ++ messageId ++ " not found"⟩
  | some reply =>
      require (reply.recipient = requester)
        ⟨.foreignAccessDenied, "Cannot consume foreign reply"⟩
      return { journal with
        replies := journal.replies.update (·.messageId = messageId)
          (fun row => { row with consumed := true, updatedAt := now }) fun _ _ => rfl }

/-- Hold every execution that was cut off: the open's crash recovery and the
first half of `recoverQueued`. -/
def holdExecuting (now : Int) (journal : Journal) : Journal :=
  journal.updateMessages (·.phase = .executing)
    (fun row => { row with
      phase := .held
      reason := some "crash_recovery"
      updatedAt := now }) fun _ => rfl

/-- `claimExecution`; the row is the claim, when there is one. -/
def claimExecution (messageId : String) (now : Int) (journal : Journal) :
    Journal × Option MessageRow :=
  let claimable (row : MessageRow) : Bool :=
    row.messageId = messageId && row.phase = .queuedLocal && row.recipientType = .runner
  let claimed := journal.updateMessages claimable
    (fun row => { row with phase := .executing, updatedAt := now }) fun _ => rfl
  match journal.messages.find? messageId with
  | some row => if claimable row then (claimed, claimed.messages.find? messageId)
      else (claimed, none)
  | none => (claimed, none)

/-- `holdExecution`. It selects the row by its id alone. -/
def holdExecution (messageId reason : String) (lateResultText : Option String) (now : Int)
    (journal : Journal) : Journal :=
  journal.updateMessages (·.messageId = messageId)
    (fun row => { row with
      phase := .held
      reason := some reason
      lateResultText := lateResultText.orElse fun _ => row.lateResultText
      updatedAt := now }) fun _ => rfl

/-- `recordExecutionFailure`. -/
def recordExecutionFailure (messageId reason : String) (runtimeError : Option String)
    (now : Int) (journal : Journal) : Journal :=
  journal.updateMessages
    (fun row => row.messageId = messageId &&
      (row.phase = .queuedLocal || row.phase = .executing))
    (fun row => { row with
      phase := .held
      reason := some reason
      runtimeError := runtimeError.filter (· ≠ "")
      updatedAt := now }) fun _ => rfl

/-- `compact`: finished records only. -/
def compact (runtime : JournalRuntime) (now retentionMs : Int) (journal : Journal) : Journal :=
  let cutoff := now - retentionMs
  let replies := journal.replies.delete fun reply => reply.consumed && reply.updatedAt ≤ cutoff
  { journal with
    replies := replies
    messages := journal.messages.delete fun row =>
      (row.phase = .completed || row.phase = .failed) && row.updatedAt ≤ cutoff &&
        (replies.select (·.inReplyTo = row.messageId)).isEmpty
    pairAdmissions := journal.pairAdmissions.delete
      fun admission => admission.createdAt ≤ min cutoff (now - runtime.pairWindowMs) }

end Triangle.LocalMessaging
