import Mathlib.Data.Prod.Lex
import Mathlib.Data.String.Basic
import Triangle.LocalMessaging.Interactive
import Triangle.Std.Base64
import Triangle.Std.JsonFinite
import Triangle.Std.PagedReading

/-!
# The pages of an inbox

`listInbox` returns the first messages that wait for a session, as many as fit, and
a signed cursor when there are more. A cursor is the position of the last message of
its page.

The signature is a function of the runtime, and so is the order between a clock
reading and a number that is no whole one: no cursor that the journal signs has one.
-/

namespace Triangle.LocalMessaging

open Triangle.Std

/-- What the payload of a cursor holds. -/
structure InboxPosition where
  requester : String
  createdAt : Int
  messageId : String
  deriving DecidableEq

/-- The number `t` of a signed payload. -/
inductive CursorTime
  | whole (value : Int)
  | real (literal : String)
  deriving DecidableEq

/-- What `decodeCursor` returns. -/
structure InboxCursor where
  createdAt : CursorTime
  messageId : String
  deriving DecidableEq

/-- The signature of this process and the comparison of SQLite. -/
structure CursorRuntime where
  /-- `createHmac("sha256", cursorSecret).update(b64).digest("base64url")`. -/
  hmac : String → String
  realBefore : String → Int → Bool

/-- The payload of a cursor in base64. -/
def InboxPosition.payload (position : InboxPosition) : String :=
  Base64.encode (Utf8.encode (Json.obj
    [("r", .str position.requester), ("t", .int position.createdAt),
      ("m", .str position.messageId)]).text)

/-- `typeof value === "number"`. -/
def cursorTime? : Json → Option CursorTime
  | .int value => some (.whole value)
  | .float literal => some (.real literal)
  | _ => none

/-- The fields of a signed payload, when they are those of the requester. -/
def cursorFields? (requester : String) : Json → Option InboxCursor
  | .obj fields =>
      match Json.property? fields "r", (Json.property? fields "t").bind cursorTime?,
        Json.property? fields "m" with
      | some (.str owner), some createdAt, some (.str messageId) =>
          if owner = requester then some ⟨createdAt, messageId⟩ else none
      | _, _, _ => none
  | _ => none

/-- A value that is taken for a condition. -/
def isTruthy : Json → Bool
  | .null => false
  | .bool value => value
  | .int value => value ≠ 0
  | .float _ => true
  | .str value => value ≠ ""
  | .arr _ | .obj _ => true

section

variable (runtime : CursorRuntime)

/-- `encodeCursor`. -/
def encodeCursor (position : InboxPosition) : String :=
  position.payload ++ "." ++ runtime.hmac position.payload

/-- `decodeCursor`. -/
def decodeCursor (cursor : Json) (requester : String) : Outcome InboxCursor :=
  match cursor with
  | .str cursor => do
      require ('.' ∈ cursor.toList) ⟨.invalidCursor, "Malformed cursor format"⟩
      let b64 := String.ofList (cursor.toList.takeWhile (· ≠ '.'))
      let hmac := String.ofList (cursor.toList.dropWhile (· ≠ '.')).tail
      require (hmac = runtime.hmac b64)
        ⟨.invalidCursor, "Invalid or tampered cursor signature"⟩
      let parsed ← expect (Json.parse (Utf8.decode (Base64.decode b64)))
        ⟨.invalidCursor, "Malformed cursor payload"⟩
      expect (cursorFields? requester parsed)
        ⟨.invalidCursor, "Cursor requester mismatch or invalid fields"⟩
  | _ => .error ⟨.invalidCursor, "Cursor must be a string"⟩

/-- `created_at > ? OR (created_at = ? AND message_id > ?)`. -/
def InboxCursor.isBefore (cursor : InboxCursor) (row : MessageRow) : Bool :=
  match cursor.createdAt with
  | .whole value =>
      value < row.createdAt || (row.createdAt = value && cursor.messageId < row.messageId)
  | .real literal => runtime.realBefore literal row.createdAt

/-- The messages that wait for a session. -/
def waitingMessages (requester : String) (journal : Journal) : List MessageRow :=
  journal.messages.select fun row =>
    row.recipient = requester && row.phase = .queuedLocal && row.recipientType = .interactive

/-- The rows of a listing and its cursor. -/
structure InboxPage where
  rows : List MessageRow
  nextCursor : Option String

/-- The items of a listing. -/
def InboxPage.items (page : InboxPage) : List Json :=
  page.rows.map mapMessageRow

/-- `MAX_INBOX_PAYLOAD_BYTES`. -/
def maxInboxPayloadBytes : Nat := 180 * 1024

/-- `rowBytes`. -/
def rowBytes (row : MessageRow) : Nat :=
  (mapMessageRow row).byteLength + 2

/-- The cursor of the last item. -/
def lastCursor (requester : String) (rows : List MessageRow) : Option String :=
  rows.getLast?.map fun last =>
    encodeCursor runtime ⟨requester, last.createdAt, last.messageId⟩

/-- The loop of `listInbox` over the candidate rows. -/
def fillPage (requester : String) (maxCount : Nat) :
    List MessageRow → Nat → List MessageRow → InboxPage
  | rows, _, [] => ⟨rows, none⟩
  | rows, totalBytes, row :: candidates =>
      if maxCount ≤ rows.length then ⟨rows, lastCursor runtime requester rows⟩
      else if rows ≠ [] ∧ maxInboxPayloadBytes < totalBytes + rowBytes row then
        ⟨rows, lastCursor runtime requester rows⟩
      else fillPage requester maxCount (rows ++ [row]) (totalBytes + rowBytes row) candidates

/-- Arguments of `listInbox`. SQLite takes no limit that is not a whole number. -/
structure ListArgs where
  requester : String
  limit : Int := 50
  cursor : Json := .null

/-- The cursor that the arguments name. -/
def ListArgs.position (args : ListArgs) : Outcome (Option InboxCursor) :=
  if isTruthy args.cursor then (decodeCursor runtime args.cursor args.requester).map some
  else .ok none

/-- `maxCount`. -/
def ListArgs.maxCount (args : ListArgs) : Nat :=
  (min (max 1 args.limit) 100).toNat

/-- The candidate rows of a listing. -/
def candidateRows (args : ListArgs) (cursor : Option InboxCursor) (journal : Journal) :
    List MessageRow :=
  (orderByCreated (·.createdAt) (·.messageId)
    ((waitingMessages args.requester journal).filter fun row =>
      cursor.all fun cursor => cursor.isBefore runtime row)).take (args.maxCount + 1)

/-- `listInbox`. The expired claims are held before the cursor is looked at. -/
def listInbox (args : ListArgs) (now : Int) (journal : Journal) :
    Outcome (Journal × Committed InboxPage) := do
  require (args.requester ≠ "") ⟨.invalidParams, "requester is required"⟩
  let reaped := reapExpiredClaims args.requester now journal
  match args.position runtime with
  | .error problem => return (reaped, .thrown problem)
  | .ok cursor =>
      return (reaped, .returned (fillPage runtime args.requester args.maxCount [] 64
        (candidateRows runtime args cursor reaped)))

end

end Triangle.LocalMessaging
