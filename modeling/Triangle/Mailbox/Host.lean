import Triangle.Mailbox.Service

/-!
# Helper processes of one instance

Any number of helper processes run commands of the service over one store and
one server. A `Choice` holds whatever a call does not decide itself: whether
the store or the network fails before or after the call took effect, the clock,
and what the server reports.

The server answers a reply as one that deduplicates by idempotency key: a key
that it holds is never written again. `seen` is the record that the running
command of a process read or wrote last, and `deeds` the history of what the
processes sent and removed; neither is read by the code.
-/

namespace Triangle.Mailbox

open Triangle.Std Triangle.Semantics

/-- A reply in the history of a room. -/
structure ReplyEvent where
  roomID : RoomId
  idempotencyKey : String
  text : String
  eventID : EventId

/-- The replies that the server holds. -/
structure Server where
  replies : List ReplyEvent

namespace Server

/-- Append a reply, or answer for the one that has its key. -/
def sendReply (server : Server) (roomID : RoomId) (key text : String) (newID : EventId) :
    Server × ReplyTransportResult :=
  match server.replies.find? fun event => event.idempotencyKey = key with
  | none => (⟨server.replies ++ [⟨roomID, key, text, newID⟩]⟩, .created newID.value)
  | some event =>
      (server, if event.roomID = roomID ∧ event.text = text then .created event.eventID.value
        else .idempotencyConflict)

/-- The event of a key in the history of a room. -/
def lookupReply (server : Server) (roomID : RoomId) (key : String) : Option ReplyEvent :=
  server.replies.find? fun event => event.roomID = roomID ∧ event.idempotencyKey = key

end Server

/-- How a call ends. `failMidway` is `failBefore` for every call that has only
one effect. -/
inductive Fate
  | success
  | failBefore
  | failMidway
  | failAfter
  deriving DecidableEq

/-- What the environment decides about one call. -/
structure Choice where
  fate : Fate
  now : String
  candidates : List DeliveryCandidate
  claimResult : ClaimTransportResult
  newEventID : EventId
  lookupFinds : Bool

/-- Something that a process sent or removed, with the record it had seen. -/
inductive Deed
  | claimSent (seen : Option OpenTransaction) (deliveryID : Int) (claimID : String)
  | replySent (seen : Option OpenTransaction) (roomID : RoomId) (idempotencyKey : String)
  | ackSent (seen : Option OpenTransaction) (deliveryID : Int) (claimID : String)
      (replies : List ReplyEvent)
  | removed (seen : Option OpenTransaction) (record : OpenTransaction)

/-- The store, the server and the history. -/
structure World where
  store : Store
  server : Server
  seen : Nat → Option OpenTransaction
  deeds : List Deed

namespace World

/-- The record that a process has seen. -/
def see (world : World) (process : Nat) (record : OpenTransaction) : World :=
  { world with seen := Function.update world.seen process (some record) }

/-- Note a deed. -/
def note (world : World) (deed : Deed) : World :=
  { world with deeds := world.deeds ++ [deed] }

end World

/-- A write of the store under a fate. -/
def settleWrite (store : Store) (result : Except StoreError Store) (fate : Fate) :
    Store × Except StoreError Unit :=
  match result with
  | .error problem => (store, .error problem)
  | .ok next =>
      match fate with
      | .success => (next, .ok ())
      | .failAfter => (next, .error .unsafeStorage)
      | .failBefore | .failMidway => (store, .error .unsafeStorage)

/-- `FileMailboxTransactionStore.abandon` under a fate. -/
def settleAbandon (store : Store) (result : Except StoreError Quarantined) (fate : Fate) :
    Store × Except StoreError Quarantined :=
  match result with
  | .error problem => (store, .error problem)
  | .ok entry =>
      match fate with
      | .success => ({ store.withQuarantined entry with openFile := none }, .ok entry)
      | .failAfter =>
          ({ store.withQuarantined entry with openFile := none }, .error .unsafeStorage)
      | .failMidway => (store.withQuarantined entry, .error .unsafeStorage)
      | .failBefore => (store, .error .unsafeStorage)

/-- The record that a store operation took away. -/
def removedRecord (before after : Store) : Option OpenTransaction :=
  if after.openFile.isNone then before.openFile else none

section

variable (sha256Hex : String → String) (instanceID : ClientInstanceId)

/-- Carry out one call of a process. -/
def perform (process : Nat) (world : World) :
    (request : Call) → Choice → World × Answer request
  | .readOpen, choice =>
      let answer : Except StoreError (Option OpenTransaction) :=
        if choice.fate = .success then world.store.readOpen sha256Hex instanceID
        else .error .unsafeStorage
      match answer with
      | .ok (some record) => (world.see process record, answer)
      | _ => (world, answer)
  | .prepare transaction, choice =>
      let (store, answer) :=
        settleWrite world.store (world.store.prepare sha256Hex transaction) choice.fate
      match answer with
      | .ok _ => ({ world with store }.see process transaction, answer)
      | .error _ => ({ world with store }, answer)
  | .replace transaction, choice =>
      let (store, answer) :=
        settleWrite world.store (world.store.replace sha256Hex transaction) choice.fate
      match answer with
      | .ok _ => ({ world with store }.see process transaction, answer)
      | .error _ => ({ world with store }, answer)
  | .clear expected, choice =>
      let (store, answer) :=
        settleWrite world.store (world.store.clear sha256Hex instanceID expected) choice.fate
      let next := match removedRecord world.store store with
        | some record => { world with store }.note (.removed (world.seen process) record)
        | none => { world with store }
      (next, answer)
  | .abandon, choice =>
      let (store, answer) := settleAbandon world.store
        (world.store.quarantineEntry sha256Hex instanceID choice.now) choice.fate
      let next := match removedRecord world.store store with
        | some record => { world with store }.note (.removed (world.seen process) record)
        | none => { world with store }
      (next, answer)
  | .listQuarantined, choice =>
      (world, if choice.fate = .success then world.store.listQuarantined else .error .unsafeStorage)
  | .now, choice => (world, choice.now)
  | .listPendingCandidates, choice =>
      (world, if choice.fate = .success then .ok choice.candidates else .error ())
  | .claim deliveryID claimID, choice =>
      (world.note (.claimSent (world.seen process) deliveryID claimID),
        if choice.fate = .success then .ok choice.claimResult else .error ())
  | .sendReply roomID key text _, choice =>
      let sent := world.note (.replySent (world.seen process) roomID key)
      let (server, answer) := world.server.sendReply roomID key text choice.newEventID
      match choice.fate with
      | .success => ({ sent with server }, .ok answer)
      | .failAfter => ({ sent with server }, .error ())
      | .failBefore | .failMidway => (sent, .error ())
  | .lookupReplyEventID roomID key, choice =>
      (world,
        if choice.fate = .success then
          .ok (if choice.lookupFinds then
            (world.server.lookupReply roomID key).map fun event => event.eventID.value else none)
        else .error ())
  | .acknowledge deliveryID claimID, choice =>
      (world.note (.ackSent (world.seen process) deliveryID claimID world.server.replies),
        if choice.fate = .success then .ok () else .error ())

/-- The helper processes of one instance. -/
def helpers : Interleaving Nat Command Call Answer ServiceError Outcome World Choice where
  code := code sha256Hex instanceID
  enter process world := { world with seen := Function.update world.seen process none }
  perform := perform sha256Hex instanceID

/-- No record, no quarantine and no reply. -/
def emptyWorld : World where
  store := ⟨none, []⟩
  server := ⟨[]⟩
  seen _ := none
  deeds := []

abbrev HelperState := Interleaving.State Nat Call Answer ServiceError Outcome World

abbrev HelperEvent := Interleaving.Event Nat Command Choice

/-- The machine of all interleavings and crashes. -/
def helperMachine : Machine HelperState HelperEvent :=
  (helpers sha256Hex instanceID).machine emptyWorld

end

end Triangle.Mailbox
