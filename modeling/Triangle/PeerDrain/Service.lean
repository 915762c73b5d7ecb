import Triangle.Std.JsonParse
import Triangle.Std.Table
import Triangle.Std.Text

/-!
# The peer drain journal

`packages/agent-worker/src/peer-drain-service.mjs`: the envelopes that peers
exchange, the checks on an inbox item, the journal tables and the statements
that the service runs on them, and `resolvePeerRecord`.

Columns hold what the source stores. `digest` is the hexadecimal SHA-256 of a
text and is a parameter of what uses it. The stored result of an operation is
kept as a structure and not as its JSON.
-/

namespace Triangle.PeerDrain

open Triangle.Std

/-- `MAX_PAYLOAD_BYTES`. -/
def maxPayloadBytes : Nat := 256 * 1024

/-- `MAX_FRAME_BYTES`. -/
def maxFrameBytes : Nat := 320 * 1024

/-- `RETENTION_MS`. -/
def retentionMs : Nat := 8 * 24 * 60 * 60 * 1000

/-- `MAX_RECORDS_CAP`. -/
def maxRecordsCap : Nat := 10000

/-- `PEER_ENVELOPE_PROTOCOL`. -/
def peerEnvelopeProtocol : String := "triangle.peer/1"

/-- `/^[a-f0-9]{64}$/`. -/
def isEndpoint (text : String) : Bool :=
  Text.isHex64 text

/-- `/^[A-Za-z0-9._:-]{1,256}$/`. -/
def isIdentifier (text : String) : Bool :=
  Text.matchesClass Text.isIdentifierChar 1 256 text

/-- A text that is not blank and fits a payload. -/
def isText (text : String) : Bool :=
  !Text.isBlank text && text.utf8ByteSize ≤ maxPayloadBytes

/-! ## Envelopes -/

/-- A payload of the `triangle.peer/1` protocol. -/
inductive Envelope where
  | request (requestId text : String)
  | reply (requestId inReplyTo text : String)
  | outcome (requestId inReplyTo state reason : String)
  deriving DecidableEq, Repr

/-- A string field that passes a check. -/
def checkedField (fields : List (String × Json)) (name : String) (accepts : String → Bool) :
    Option String :=
  match (fields.find? fun field => field.1 = name).map Prod.snd with
  | some (.str value) => if accepts value then some value else none
  | _ => none

/-- Whether these are the keys of the object. -/
def hasKeys (fields : List (String × Json)) (expected : List String) : Bool :=
  fields.length = expected.length && expected.all fun name => fields.any fun field => field.1 = name

/-- The texts of `invalid_envelope`. -/
inductive EnvelopeError where
  | notAnEnvelope
  | notJson
  | shape
  | requestId
  | requestText
  | replyFields
  | outcomeFields
  | keys
  | unknownKind
  deriving DecidableEq, Repr

/-- The text of an error. -/
def EnvelopeError.message : EnvelopeError → String
  | .notAnEnvelope => "Payload exceeds maximum envelope size or is not a string"
  | .notJson => "Payload is not valid JSON"
  | .shape => "Envelope has invalid structure or fields"
  | .requestId => "Invalid request_id"
  | .requestText => "Invalid request text"
  | .replyFields => "Invalid reply in_reply_to or text"
  | .outcomeFields => "Invalid outcome in_reply_to, state, or reason"
  | .keys => "Envelope has unrecognized or missing keys"
  | .unknownKind => "Unknown envelope kind"

/-- The envelope of an object of the protocol. -/
def envelopeOf (fields : List (String × Json)) : Except EnvelopeError Envelope :=
  match checkedField fields "request_id" isIdentifier with
  | none => .error .requestId
  | some requestId =>
      match checkedField fields "kind" fun _ => true with
      | some "request" =>
          match checkedField fields "text" isText with
          | none => .error .requestText
          | some text =>
              if hasKeys fields ["kind", "protocol", "request_id", "text"] then
                .ok (.request requestId text)
              else .error .keys
      | some "reply" =>
          match checkedField fields "in_reply_to" isIdentifier, checkedField fields "text" isText with
          | some inReplyTo, some text =>
              if hasKeys fields ["in_reply_to", "kind", "protocol", "request_id", "text"] then
                .ok (.reply requestId inReplyTo text)
              else .error .keys
          | _, _ => .error .replyFields
      | some "outcome" =>
          match checkedField fields "in_reply_to" isIdentifier,
              checkedField fields "state" fun state => state ∈ ["held", "rejected", "failed"],
              checkedField fields "reason" isIdentifier with
          | some inReplyTo, some state, some reason =>
              if hasKeys fields
                  ["in_reply_to", "kind", "protocol", "reason", "request_id", "state"] then
                .ok (.outcome requestId inReplyTo state reason)
              else .error .keys
          | _, _, _ => .error .outcomeFields
      | _ => .error .unknownKind

/-- `parsePeerEnvelope`. -/
def parsePeerEnvelope (payload : String) : Except EnvelopeError Envelope :=
  if maxPayloadBytes < payload.utf8ByteSize then .error .notAnEnvelope
  else
    match Json.parse payload with
    | none => .error .notJson
    | some (.obj fields) =>
        if checkedField fields "protocol" (· = peerEnvelopeProtocol) = none then .error .shape
        else envelopeOf fields
    | some _ => .error .shape

/-- Whether a stored payload still reads as an envelope. -/
def readsAsEnvelope (payload : Option String) : Bool :=
  match payload.map parsePeerEnvelope with
  | some (.ok _) => true
  | _ => false

section

variable (digest : String → String)

/-- `estimateWireFrameLen`. -/
def estimateWireFrameLen (messageId payload senderEndpointId : String) (createdAtUnixMs : Nat) :
    Nat :=
  Json.byteLength (.obj
    [("type", .str "message"), ("message_id", .str messageId), ("payload_hash", .str (digest payload)),
      ("payload", .str payload), ("sender_endpoint_id", .str senderEndpointId),
      ("created_at_unix_ms", .int createdAtUnixMs)])

/-- `checkPayloadAndFrame`: whether the payload and its frame fit. -/
def checkPayloadAndFrame (payload messageId senderEndpointId : String) (createdAtUnixMs : Nat) :
    Bool :=
  if maxPayloadBytes < payload.utf8ByteSize then false
  else if messageId ≠ "" ∧ senderEndpointId ≠ "" then
    estimateWireFrameLen digest messageId payload senderEndpointId createdAtUnixMs ≤ maxFrameBytes
  else true

/-- `derivePeerReplyId` of a valid endpoint and message id. -/
def derivePeerReplyId (senderEndpointId messageId : String) : String :=
  "peer-reply-" ++ digest ("triangle-peer-reply-v1\x00" ++ senderEndpointId ++ "\x00" ++ messageId)

/-- The payload of a reply. -/
def replyPayload (requestId messageId text : String) : String :=
  Json.text (.obj
    [("protocol", .str peerEnvelopeProtocol), ("kind", .str "reply"),
      ("request_id", .str requestId), ("in_reply_to", .str messageId), ("text", .str text)])

end

/-! ## Tables -/

/-- The phase of a record. -/
inductive Phase where
  | executing
  | result
  | admitted
  | acked
  | held
  | rejected
  | replyFailed
  | replyReceived
  | discarded
  | retryPending
  | resendPending
  deriving DecidableEq, Repr

/-- `TERMINAL_PHASES`. -/
def Phase.isTerminal : Phase → Bool
  | .acked | .held | .rejected | .replyFailed | .replyReceived | .discarded => true
  | _ => false

/-- A message is named by its sender and its id. -/
abbrev MessageKey := String × String

/-- A row of `records`. -/
structure Record where
  sender : String
  messageId : String
  inputHash : String
  phase : Phase
  inReplyTo : Option String := none
  requestId : Option String := none
  replyId : Option String := none
  replyPayload : Option String := none
  inputPayload : Option String := none
  resultPayload : Option String := none
  reason : Option String := none
  executionAttempt : Nat := 1
  resendAttempt : Nat := 0
  revision : Nat := 1
  terminalAt : Option Nat := none
  applicationConsumed : Bool := false
  inputAcked : Bool := false
  outcomeSent : Bool := false
  createdAt : Nat := 0
  updatedAt : Nat := 0
  deriving DecidableEq, Repr

/-- The primary key of `records`. -/
def Record.key (record : Record) : MessageKey :=
  (record.sender, record.messageId)

/-- The row with other values in the columns outside its key. -/
def Record.setColumns (row changed : Record) : Record :=
  { changed with
    sender := row.sender
    messageId := row.messageId }

@[simp] theorem Record.setColumns_key (row changed : Record) :
    (row.setColumns changed).key = row.key := rfl

@[simp] theorem Record.setColumns_phase (row changed : Record) :
    (row.setColumns changed).phase = changed.phase := rfl

/-- A row of `outbound`: a request that this host sent. -/
structure Outbound where
  messageId : String
  toEndpointId : String
  requestId : String
  payloadHash : String
  state : String
  createdAt : Nat
  updatedAt : Nat
  terminalAt : Option Nat
  closedAt : Option Nat
  closeReason : Option String
  deriving DecidableEq, Repr

/-- What `resolvePeerRecord` returns. -/
structure ResolveResult where
  operationId : String
  action : String
  state : String
  messageId : String
  replyId : Option String
  revision : Option Nat
  deriving DecidableEq, Repr

/-- A row of `operations`. -/
structure OperationRow where
  operationId : String
  sender : String
  messageId : String
  action : String
  result : ResolveResult
  createdAt : Nat
  deriving DecidableEq, Repr

/-- The journal of the service. -/
structure DrainJournal where
  records : Table Record.key
  outbound : Table Outbound.messageId
  operations : Table OperationRow.operationId

/-- A journal without rows. -/
def DrainJournal.empty : DrainJournal where
  records := Table.empty
  outbound := Table.empty
  operations := Table.empty

namespace DrainJournal

/-- `getRow`. -/
def getRow (journal : DrainJournal) (key : MessageKey) : Option Record :=
  journal.records.find? key

/-- `UPDATE records SET … WHERE selected`; no statement sets a key column. -/
def updateWhere (journal : DrainJournal) (selected : Record → Bool) (change : Record → Record) :
    DrainJournal :=
  { journal with
    records := journal.records.update selected (fun row => row.setColumns (change row))
      (fun row _ => row.setColumns_key (change row)) }

theorem getRow_updateWhere (journal : DrainJournal) (selected : Record → Bool)
    (change : Record → Record) (key : MessageKey) :
    (journal.updateWhere selected change).getRow key =
      (journal.getRow key).map fun row =>
        if selected row then row.setColumns (change row) else row := by
  unfold getRow updateWhere
  dsimp only
  rw [Table.find?_update]

/-- `UPDATE records SET … WHERE sender=? AND message_id=?`. -/
def updateRow (journal : DrainJournal) (key : MessageKey) (change : Record → Record) :
    DrainJournal :=
  journal.updateWhere (fun row => row.key = key) change

/-- `INSERT INTO records`; a row with the key makes it fail. -/
def insertRow (journal : DrainJournal) (row : Record) : Option DrainJournal :=
  if free : journal.records.find? row.key = none then
    some { journal with records := journal.records.insert row free }
  else none

/-- `DELETE FROM records`. -/
def deleteWhere (journal : DrainJournal) (selected : Record → Bool) : DrainJournal :=
  { journal with records := journal.records.delete selected }

end DrainJournal

/-- What the retention sweep of `step` deletes: `terminal_at` is at least eight
days old. -/
def Record.isExpired (now : Nat) (record : Record) : Bool :=
  (record.phase ∈ [.acked, .rejected, .discarded] ||
      (record.phase = .replyReceived && record.applicationConsumed)) &&
    match record.terminalAt with
    | none => false
    | some terminalAt => terminalAt + retentionMs ≤ now

/-- `SELECT * … WHERE selected ORDER BY updated_at LIMIT 1`; `tie` decides between
rows that were updated at the same time. -/
def oldest (journal : DrainJournal) (tie : Nat) (selected : Record → Bool) : Option Record :=
  let rows := journal.records.select selected
  let first := rows.filter fun row => rows.all fun other => row.updatedAt ≤ other.updatedAt
  (first[tie]?).or first.head?

/-! ## Operator calls -/

/-- A call of `resolvePeerRecord`. -/
structure ResolveCall where
  fromEndpointId : String
  messageId : String
  action : String
  operationId : String
  expectedRevision : Option Nat
  deriving DecidableEq, Repr

/-- Where a call is about a message that the runner may still work on. -/
def ResolveCall.key (call : ResolveCall) : MessageKey :=
  (call.fromEndpointId, call.messageId)

/-- What an operator call did to a record. -/
inductive Resolution where
  | retried
  | resent
  | discarded
  | closedOutbound
  | replayed
  deriving DecidableEq, Repr

section

variable (digest : String → String)

/-- The change of a record that an action makes, with what it did, or the error
code. -/
def resolveRow (active : Bool) (call : ResolveCall) (row : Record) (now : Nat) :
    Except String ((Record → Record) × Resolution × ResolveResult) :=
  let revision := row.revision + 1
  let discard : (Record → Record) × Resolution × ResolveResult :=
    (fun row =>
      { row with
        phase := .discarded
        revision := row.revision + 1
        terminalAt := some now
        updatedAt := now },
      .discarded,
      ⟨call.operationId, call.action, "discarded", call.messageId, none, some revision⟩)
  match row.phase with
  | .held =>
      if call.action = "retry" then
        if active then .error "execution_still_active"
        else
          .ok (fun row =>
            { row with
              phase := .retryPending
              executionAttempt := row.executionAttempt + 1
              revision := row.revision + 1
              updatedAt := now },
            .retried,
            ⟨call.operationId, call.action, "retry_pending", call.messageId, none, some revision⟩)
      else if call.action = "discard" then .ok discard
      else .error "invalid_action"
  | .replyFailed =>
      if call.action = "resend" then
        let nextAttempt := row.resendAttempt + 1
        let newReplyId := derivePeerReplyId digest call.fromEndpointId call.messageId ++ "-resend-" ++
          toString nextAttempt
        .ok (fun row =>
          { row with
            phase := .resendPending
            replyId := some newReplyId
            resendAttempt := nextAttempt
            revision := row.revision + 1
            updatedAt := now },
          .resent,
          ⟨call.operationId, call.action, "resend_pending", call.messageId, some newReplyId,
            some revision⟩)
      else if call.action = "discard" then .ok discard
      else .error "invalid_action"
  | _ => .error "invalid_phase"

/-- Store the result of an operation. -/
def recordOperation (journal : DrainJournal) (call : ResolveCall) (result : ResolveResult)
    (now : Nat) : DrainJournal :=
  { journal with
    operations := journal.operations.upsert
      ⟨call.operationId, call.fromEndpointId, call.messageId, call.action, result, now⟩ }

/-- `resolvePeerRecord`, in one transaction. `active` tells whether a runner of
the message has not settled. -/
def resolvePeerRecord (journal : DrainJournal) (active : Bool) (call : ResolveCall) (now : Nat) :
    Except String (DrainJournal × Resolution × ResolveResult) :=
  if !isEndpoint call.fromEndpointId || !isIdentifier call.messageId ||
      !isIdentifier call.operationId then .error "invalid_params"
  else
    match journal.operations.find? call.operationId with
    | some existing =>
        if existing.sender = call.fromEndpointId ∧ existing.messageId = call.messageId ∧
            existing.action = call.action then .ok (journal, .replayed, existing.result)
        else .error "operation_conflict"
    | none =>
        if call.action = "close_outbound" then
          match journal.outbound.find? call.messageId with
          | none => .error "record_not_found"
          | some _ =>
              let result : ResolveResult :=
                ⟨call.operationId, call.action, "closed", call.messageId, none, none⟩
              let closed :=
                { journal with
                  outbound := journal.outbound.update (fun row => row.messageId = call.messageId)
                    (fun row =>
                      { row with
                        closedAt := some now
                        closeReason := some "operator_closed"
                        updatedAt := now })
                    (fun _ _ => rfl) }
              .ok (recordOperation closed call result now, .closedOutbound, result)
        else
          match journal.getRow call.key with
          | none => .error "record_not_found"
          | some row =>
              if call.expectedRevision.any (· ≠ row.revision) then .error "revision_conflict"
              else
                match resolveRow digest active call row now with
                | .error code => .error code
                | .ok (change, resolution, result) =>
                    .ok (recordOperation (journal.updateRow call.key change) call result now,
                      resolution, result)

end

/-- `consumeReply`. -/
def consumeReply (journal : DrainJournal) (key : MessageKey) (now : Nat) :
    Except String DrainJournal :=
  if !isEndpoint key.1 || !isIdentifier key.2 then .error "invalid_identity"
  else
    match journal.getRow key with
    | none => .error "reply_not_found"
    | some row =>
        if row.phase ≠ .replyReceived then .error "reply_not_found"
        else
          .ok (journal.updateRow key fun row =>
            { row with
              applicationConsumed := true
              terminalAt := some now
              updatedAt := now })

end Triangle.PeerDrain
