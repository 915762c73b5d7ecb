import Triangle.LocalMessaging.InboxPages
import Triangle.LocalMessaging.LoopDepth

/-!
# Sending a message

`send_message` of the server, from the parameters of the request to the receipt:
the limits are reserved, the depth is calculated, the journal admits, and a
rejected admission gives the reservation back. The router, the owner's ACL and
the stores of reply identity answer through `SendAnswers`.

The durable journal counts the pairs itself, so the exchange limiter of the
server, which is for journals that do not, is left out; and the journal is open,
because the server answers its last request before it is closed.
-/

namespace Triangle.LocalMessaging

open Triangle.Std

/-! ## The rate limiter -/

/-- The options of `createPerSenderRateLimiter`. -/
structure RateLimits where
  maxRequestsPerWindow : Nat := 60
  windowMs : Nat := 60000

/-- `senderHistory`: the times of each sender's entries. -/
abbrev SenderHistory :=
  String → List Int

/-- `prune`. -/
def prune (cutoff : Int) (history : List Int) : List Int :=
  history.dropWhile (· < cutoff)

/-- `reserve`: the check, and then the entry. -/
def reserve (limits : RateLimits) (senderId : String) (now : Int) (history : SenderHistory) :
    Outcome Unit × SenderHistory :=
  if senderId = "" then
    (.error ⟨.invalidSender, "senderId required for rate limiting"⟩, history)
  else
    let kept := prune (now - limits.windowMs) (history senderId)
    if limits.maxRequestsPerWindow ≤ kept.length then
      (.error ⟨.rateLimitExceeded, "Rate limit of " ++ toString limits.maxRequestsPerWindow ++
        " requests per " ++ toString limits.windowMs ++ "ms exceeded"⟩,
        Function.update history senderId kept)
    else (.ok (), Function.update history senderId (kept ++ [now]))

/-- `rollback` of the entry that was reserved last. -/
def rollback (senderId : String) (history : SenderHistory) : SenderHistory :=
  Function.update history senderId (history senderId).dropLast

/-! ## The request -/

/-- `MAX_FIELD_STRING_LENGTH`. -/
def maxFieldStringLength : Nat := 128 * 1024

/-- `identifier(value, name)`. -/
def identifier (value : Json) (name : String) : Outcome String :=
  let problem : MessagingError :=
    ⟨.invalidRequest, name ++ " must be a bounded identifier string"⟩
  match value with
  | .str text => if isIdentifier text then .ok text else .error problem
  | _ => .error problem

/-- `identifier(value, name, { optional: true })`. -/
def optionalIdentifier (value : Json) (name : String) : Outcome (Option String) :=
  match value with
  | .null => .ok none
  | value => (identifier value name).map some

/-- What `{ ...value }` copies; `characters` are the fields of a string. -/
def ownFields (characters : String → List (String × Json)) : Json → List (String × Json)
  | .obj fields => fields
  | .arr items => items.zipIdx.map fun item => (toString item.2, item.1)
  | .str text => characters text
  | .null | .bool _ | .int _ | .float _ => []

/-- `withoutPayloadProvenance`. -/
def withoutPayloadProvenance (metadata : List (String × Json)) : List (String × Json) :=
  metadata.filter fun field => field.1 ∉ ["sender_provenance", "senderProvenance"]

/-- The parameters of a request that were accepted. -/
structure SendRequest where
  sendTo : String
  text : String
  messageId : String
  requestId : Option String
  inReplyTo : Option String
  metadata : List (String × Json)

/-- `requestId || messageId`. -/
def SendRequest.effectiveRequestId (request : SendRequest) : String :=
  (request.requestId.filter (· ≠ "")).getD request.messageId

/-- Read the parameters of a request. -/
def readSend (characters : String → List (String × Json)) (params : List (String × Json)) :
    Outcome SendRequest := do
  require (isTruthy (Json.property params "to") ∧ isTruthy (Json.property params "text") ∧
      isTruthy (Json.property params "messageId"))
    ⟨.invalidRequest, "to, text, and messageId are required for send_message"⟩
  let sendTo ← identifier (Json.property params "to") "to"
  let messageId ← identifier (Json.property params "messageId") "messageId"
  let requestId ← optionalIdentifier (Json.property params "requestId") "requestId"
  let inReplyTo ← optionalIdentifier (Json.property params "inReplyTo") "inReplyTo"
  match Json.property params "text" with
  | .str text =>
      require (Text.utf16Length text ≤ maxFieldStringLength)
        ⟨.payloadTooLarge,
          "Message text exceeds field limit of " ++ toString maxFieldStringLength⟩
      return {
        sendTo := sendTo
        text := text
        messageId := messageId
        requestId := requestId
        inReplyTo := inReplyTo
        metadata := ownFields characters (Json.property params "metadata") }
  | _ =>
      .error ⟨.payloadTooLarge,
        "Message text exceeds field limit of " ++ toString maxFieldStringLength⟩

/-! ## The parts of a send -/

/-- What `resolveSend` returns. -/
structure Resolution where
  resolvedTo : String
  resolved : Bool
  via : Option ResolvedVia
  principal : Option String

/-- What `prepareSend` of the reply identity returns. -/
structure ReplyContext where
  replyRoute : ReplyRoute
  senderProvenance : Json

/-- What the parts around the server answer to one request of its sender. -/
structure SendAnswers where
  resolveSend : String → Outcome Resolution
  checkAllowed : String → Outcome Unit
  isInteractive : String → Bool
  readRoute : String → Outcome ReplyRoute
  prepareSend : Option (String → String → Option ReplyRoute → Outcome (Option ReplyContext))
  routes : RouteAnswers

/-- The configuration of the server. -/
structure SendRuntime where
  journal : JournalRuntime
  limits : RateLimits := {}
  maxLoopDepth : Int := 10
  maxTrackedMessages : Nat := 10000
  characters : String → List (String × Json)

/-- What the server keeps between requests. -/
structure SendServer (runtime : SendRuntime) where
  history : SenderHistory
  tracker : LoopTracker runtime.maxTrackedMessages
  journal : Journal

/-- `existingRecord.loopDepth || existingRecord.metadata?._loopDepth || 1`. -/
def knownDepth (record : StoredRecord) : Int :=
  ((record.metadata.map Metadata.loopDepth).filter (· ≠ 0)).getD 1

section

variable (runtime : SendRuntime) (answers : SendAnswers) (claims : TurnClaims)
variable (senderId : String) (now : Int)

/-- Resolution of the recipient, the ACL and the scope of the credential. -/
def permitSend (request : SendRequest) : Outcome Resolution := do
  let resolution ← answers.resolveSend request.sendTo
  answers.checkAllowed resolution.resolvedTo
  require (∀ allowed ∈ claims.allowedRecipients, resolution.resolvedTo ∈ allowed)
    ⟨.recipientNotAllowed, "Recipient " ++ resolution.resolvedTo ++
      " is not permitted by turn credential claims"⟩
  return resolution

/-- The depth that a send is admitted with. -/
def admissionDepth (journal : Journal) (tracker : LoopTracker runtime.maxTrackedMessages)
    (request : SendRequest) : Outcome Int × LoopTracker runtime.maxTrackedMessages :=
  match journal.getRecord request.messageId with
  | some existingRecord => (.ok (knownDepth existingRecord), tracker)
  | none => tracker.calculateDepth journal runtime.maxLoopDepth claims request.inReplyTo

/-- `getReplyRouteForMessage` of a known record. -/
def existingRoute (journal : Journal) (messageId : String) : Outcome (Option ReplyRoute) :=
  match ((journal.messages.find? messageId).bind MessageRow.replyRouteKey).filter (· ≠ "") with
  | none => .ok none
  | some key => (answers.readRoute key).map some

/-- `replyContext`: a known record without a route is never promoted into pinned work. -/
def replyContext (journal : Journal) (recipient : String) (request : SendRequest) :
    Outcome (Option ReplyContext) := do
  let route ← existingRoute answers journal request.messageId
  match answers.prepareSend with
  | none =>
      require (route.isNone = true)
        ⟨.replyRouteUnavailable, "Pinned retries require authenticated identity verification"⟩
      return none
  | some prepareSend =>
      if (journal.getRecord request.messageId).isNone || route.isSome then
        prepareSend recipient request.effectiveRequestId route
      else return none

/-- The envelope of a send. -/
def sendEnvelope (context : Option ReplyContext) (depth : Int) (recipient : String)
    (request : SendRequest) : Envelope where
  sender := senderId
  recipient := recipient
  messageId := request.messageId
  requestId := request.effectiveRequestId
  inReplyTo := request.inReplyTo
  text := request.text
  metadata := some (.withDepth
    (if context.isSome then withoutPayloadProvenance request.metadata else request.metadata) depth)

/-- The options of a send. -/
def sendOptions (context : Option ReplyContext) (resolution : Resolution) : SendOptions where
  recipientType := if answers.isInteractive resolution.resolvedTo then .interactive else .runner
  toPrincipal := if resolution.resolved then resolution.principal else none
  resolvedVia := resolution.via
  replyRoute := context.map ReplyContext.replyRoute
  replySenderBindingId := context.bind fun _ => claims.bindingId
  senderProvenance := context.map ReplyContext.senderProvenance
  now := now

/-- The admission, inside the `try`. -/
def admitSend (journal : Journal) (resolution : Resolution) (depth : Int)
    (request : SendRequest) : Outcome (Journal × MessageRow × Bool) := do
  let context ← replyContext answers journal resolution.resolvedTo request
  recordSend runtime.journal answers.routes
    (sendEnvelope senderId context depth resolution.resolvedTo request)
    (sendOptions answers claims now context resolution) journal

/-- The request and its recipient, once both have been accepted. -/
def acceptSend (params : List (String × Json)) : Outcome (SendRequest × Resolution) := do
  let request ← readSend runtime.characters params
  let resolution ← permitSend answers claims request
  return (request, resolution)

/-- `send_message`. A receipt shows the record and whether it is a duplicate. The depth
is calculated before the `try`, so its refusal does not reach the rollback. -/
def sendMessage (params : List (String × Json)) (server : SendServer runtime) :
    Outcome (MessageRow × Bool) × SendServer runtime :=
  match acceptSend runtime answers claims params with
  | .error problem => (.error problem, server)
  | .ok (request, resolution) =>
      match reserve runtime.limits senderId now server.history with
      | (.error problem, history) => (.error problem, { server with history := history })
      | (.ok (), history) =>
          match admissionDepth runtime claims server.journal server.tracker request with
          | (.error problem, tracker) =>
              (.error problem, { server with history := history, tracker := tracker })
          | (.ok depth, tracker) =>
              match admitSend runtime answers claims senderId now server.journal resolution depth
                  request with
              | .error problem =>
                  (.error problem,
                    { server with history := rollback senderId history, tracker := tracker })
              | .ok (journal, record, isDuplicate) =>
                  (.ok (record, isDuplicate),
                    { history := history
                      tracker := tracker.commitAdmission request.messageId depth isDuplicate
                      journal := journal })

end

end Triangle.LocalMessaging
