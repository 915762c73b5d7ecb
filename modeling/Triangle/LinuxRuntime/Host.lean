import Triangle.LinuxRuntime.Transaction

/-!
# Custodians on one store root

Any number of processes run cycles and retries over one journal, each under the
store lock, against a server that keeps the events of the rooms in order, answers
a repeated idempotency key of an agent with the event it has, and lists no
delivery that was acknowledged. A `Choice` holds what a call does not decide:
the clock, whether a file operation fails before or after its rename, whether a
request arrives and is answered, and how the runner ends.

Between any two calls the lease may be renewed, may expire or be aborted, others
may post and deliveries may arrive. A crash releases the lock. The log and
`begun`, the phase of the record that the holder read, are not read by the code.
-/

namespace Triangle.LinuxRuntime

open Triangle.Std Triangle.Semantics

/-- What happened, in order. -/
inductive Entry
  | started (deliveryId : Int) (begun : Option Phase)
  | knownFailure (deliveryId : Int)
  | retried (deliveryId : Int)
  | claimed (deliveryId : Int) (claimId : String)
  | replied (deliveryId : Int) (replyKey : String)
  | acked (sent : Record) (journal : Option Record)
  deriving DecidableEq

/-- The lease of a cycle: whose claim is renewed, until when it is held, and
whether its own signal or that of the caller is aborted. -/
structure Lease where
  record : Record
  expiresAt : Int
  controllerAborted : Bool
  signalAborted : Bool

/-- The journal, the lock, the lease of its holder, and the server. -/
structure World where
  journal : Option Record
  holder : Option Nat
  lease : Option Lease
  begun : Option Phase
  events : List Event
  deliveries : List Delivery
  acked : List Int
  log : List Entry

/-- How a file operation ends. -/
inductive Fate
  | success
  | failBefore
  | failAfter
  deriving DecidableEq

/-- How a request ends: it may arrive although it throws. -/
inductive Network
  | answered
  | failed (arrives : Bool) (problem : CustodianError)
  deriving DecidableEq

/-- What the environment decides about one call. -/
structure Choice where
  fate : Fate := .success
  network : Network := .answered
  now : Int := 0
  aborted : Bool := false
  locks : Bool := true
  leaseExpiresAt : Int := 0
  eventId : String := ""
  sequence : Int := 0
  run : RunAnswer := .failed false

/-- The answer of a request that may have failed. -/
def Network.answer {α : Type} (network : Network) (value : α) : Except CustodianError α :=
  match network with
  | .answered => .ok value
  | .failed _ problem => .error problem

def Network.arrives : Network → Bool
  | .answered => true
  | .failed arrives _ => arrives

namespace World

/-- Add to the log. -/
def note (world : World) (entries : List Entry) : World :=
  { world with log := world.log ++ entries }

/-- What saving a record over another one records. -/
def transition (before : Option Record) (after : Record) : List Entry :=
  match before with
  | none => []
  | some before =>
      (if before.failureCount < after.failureCount then [.knownFailure after.deliveryId] else []) ++
        (if after.phase = .prepared then [.retried after.deliveryId] else [])

/-- The record is saved. -/
def saved (world : World) (record : Record) : World :=
  { world.note (transition world.journal record) with journal := some record }

/-- The first page of a room after a sequence. -/
def page (world : World) (roomId : String) (after : Int) (limit : Nat) : List Event :=
  (world.events.filter fun event => event.roomId = roomId ∧ after < event.sequence).take limit

/-- A new event of a room follows all others. -/
def Follows (world : World) (roomId : String) (sequence : Int) : Prop :=
  positive sequence = true ∧
    ∀ other ∈ world.events, other.roomId = roomId → other.sequence < sequence

instance (world : World) (roomId : String) (sequence : Int) :
    Decidable (world.Follows roomId sequence) :=
  inferInstanceAs (Decidable (_ ∧ _))

/-- Two events of one room, sender and idempotency key. -/
def SameKey (first second : Event) : Prop :=
  first.roomId = second.roomId ∧ first.senderAgentId = second.senderAgentId ∧
    first.key?.isSome = true ∧ first.key? = second.key?

instance (first second : Event) : Decidable (SameKey first second) :=
  inferInstanceAs (Decidable (_ ∧ _ ∧ _ ∧ _))

/-- An event that the server accepts: it follows, and its key is new. -/
def Fits (world : World) (event : Event) : Prop :=
  world.Follows event.roomId event.sequence ∧ ∀ other ∈ world.events, ¬ SameKey other event

instance (world : World) (event : Event) : Decidable (world.Fits event) :=
  inferInstanceAs (Decidable (_ ∧ _))

/-- The event of this sender and key that a room has. -/
def findKey (world : World) (roomId senderAgentId key : String) : Option Event :=
  world.events.find? fun event =>
    event.roomId = roomId ∧ event.senderAgentId = senderAgentId ∧ event.key? = some key

/-- The first delivery that was not acknowledged. -/
def listed (world : World) : List Delivery :=
  (world.deliveries.filter fun delivery => delivery.deliveryId ∉ world.acked).take 1

/-- The lease is no longer held. -/
def isAborted (world : World) : Bool :=
  match world.lease with
  | none => true
  | some lease => lease.controllerAborted || lease.signalAborted

/-- `controller.abort()`. -/
def abortLease (world : World) : World :=
  { world with lease := world.lease.map fun lease => { lease with controllerAborted := true } }

/-- `schedule(lease)`: a lease that has ended aborts. -/
def scheduled (world : World) (record : Record) (leaseExpiresAt now : Int) : World :=
  let lease : Lease :=
    { record := record
      expiresAt := if leaseExpiresAt ≤ now then 0 else leaseExpiresAt
      controllerAborted := leaseExpiresAt ≤ now
      signalAborted := false }
  { world with lease := some lease }

/-- The lock is free again, and the lease of its holder is gone. -/
def released (world : World) : World :=
  { world with holder := none, lease := none }

end World

section

variable (custodian : Custodian)

/-- The event that a reply posts. -/
def replyEvent (record : Record) (text eventId : String) (sequence : Int) : Event where
  id := eventId
  roomId := record.roomId
  sequence := sequence
  type := "message.created"
  senderAgentId := custodian.agentId
  idempotency_key := none
  idempotencyKey := some record.replyKey
  text := some text
  replyRequired := .flag false
  inReplyToEventId := some record.eventId

/-- The server takes a reply: a key that it knows answers with the event it has. -/
def postReply (world : World) (record : Record) (text : String) (choice : Choice) :
    World × Option Event :=
  match world.findKey record.roomId custodian.agentId record.replyKey with
  | some event => (world, some event)
  | none =>
      let event := replyEvent custodian record text choice.eventId choice.sequence
      if world.Fits event then ({ world with events := world.events ++ [event] }, some event)
      else (world, none)

/-- Carry out one call of a process. -/
def perform (process : Nat) (world : World) : (request : Call) → Choice → World × Answer request
  | .lock, choice =>
      if world.holder = none ∧ choice.locks = true then
        ({ world with holder := some process, lease := none }, true)
      else (world, false)
  | .unlock, _ => (world.released, ())
  | .throwIfAborted, choice => (world, choice.aborted)
  | .now, choice => (world, choice.now)
  | .readJournal, choice =>
      if choice.fate = .success then
        ({ world with begun := world.journal.map Record.phase }, .ok world.journal)
      else (world, .error .storeFailed)
  | .writeJournal record, choice =>
      match choice.fate with
      | .success => (world.saved record, .ok ())
      | .failAfter => (world.saved record, .error .storeFailed)
      | .failBefore => (world, .error .storeFailed)
  | .removeJournal, choice =>
      match choice.fate with
      | .success => ({ world with journal := none }, .ok ())
      | .failAfter => ({ world with journal := none }, .error .storeFailed)
      | .failBefore => (world, .error .storeFailed)
  | .writeHealth _, choice =>
      (world, if choice.fate = .success then .ok () else .error .storeFailed)
  | .readHealth, choice => (world, if choice.fate = .success then .ok () else .error .storeFailed)
  | .verify, choice => (world, choice.network.answer ())
  | .listMailbox, choice => (world, choice.network.answer world.listed)
  | .claimDelivery record, choice =>
      (world.note [.claimed record.deliveryId record.claimId],
        choice.network.answer choice.leaseExpiresAt)
  | .schedule record leaseExpiresAt, choice =>
      (world.scheduled record leaseExpiresAt choice.now, ())
  | .assertOwner, choice =>
      let expired := world.lease.any fun lease => lease.expiresAt ≤ choice.now
      let after := if expired = true then world.abortLease else world
      (after, !after.isAborted)
  | .signals, _ => (world, (world.isAborted, (world.lease.map Lease.controllerAborted).getD true))
  | .endLease, _ => ({ world with lease := none }, ())
  | .history record after limit, choice =>
      (world, choice.network.answer (world.page record.roomId after limit))
  | .postEvent record text, choice =>
      let sent := world.note [.replied record.deliveryId record.replyKey]
      if choice.network.arrives = true then
        let (after, event) := postReply custodian sent record text choice
        (after, choice.network.answer event)
      else (sent, choice.network.answer none)
  | .ackDelivery record, choice =>
      let sent := world.note [.acked record world.journal]
      if choice.network.arrives = true then
        ({ sent with acked := record.deliveryId :: world.acked },
          choice.network.answer (if record.deliveryId ∈ world.acked then 0 else 1))
      else (sent, choice.network.answer 0)
  | .run record _, choice =>
      (world.note [.started record.deliveryId world.begun], choice.run)

/-- The processes of one store root. -/
def processes : Interleaving Nat Command Call Answer CustodianError Unit World Choice where
  code := code custodian
  enter _ world := world
  perform := perform custodian

abbrev ProcessState := Interleaving.State Nat Call Answer CustodianError Unit World

/-- What happens next. -/
inductive CustodianLabel
  | start (process : Nat) (command : Command)
  | resume (process : Nat) (choice : Choice)
  | crash (process : Nat)
  | renew (choice : Choice)
  | expire
  | abort
  | arrive (delivery : Delivery)
  | post (event : Event)

/-- The renewal timer fires: it claims again, and a failure aborts the lease. -/
def renewLease (world : World) (choice : Choice) : World :=
  match world.lease with
  | none => world
  | some lease =>
      if world.isAborted = true then world
      else
        let sent := world.note [.claimed lease.record.deliveryId lease.record.claimId]
        match choice.network with
        | .answered => sent.scheduled lease.record choice.leaseExpiresAt choice.now
        | .failed _ _ => sent.abortLease

/-- A delivery names an event of its room. -/
def World.Arrives (world : World) (delivery : Delivery) : Prop :=
  delivery.IsValid ∧ ∃ event ∈ world.events, event.id = delivery.eventId ∧
    event.roomId = delivery.roomId ∧ event.sequence = delivery.roomSequence

instance (world : World) (delivery : Delivery) : Decidable (world.Arrives delivery) :=
  inferInstanceAs (Decidable (_ ∧ _))

/-- What happens to the world without the processes. -/
def surroundings (world : World) : CustodianLabel → World
  | .renew choice => renewLease world choice
  | .expire => world.abortLease
  | .abort =>
      { world with lease := world.lease.map fun lease => { lease with signalAborted := true } }
  | .arrive delivery =>
      if world.Arrives delivery then { world with deliveries := world.deliveries ++ [delivery] }
      else world
  | .post event =>
      if world.Fits event then { world with events := world.events ++ [event] } else world
  | _ => world

/-- One step. A process that is killed loses the lock. -/
def custodianStep (state : ProcessState) : CustodianLabel → ProcessState
  | .start process command => (processes custodian).step state (.start process command)
  | .resume process choice => (processes custodian).step state (.resume process choice)
  | .crash process =>
      { world := if state.world.holder = some process then state.world.released else state.world
        running := Function.update state.running process none }
  | label => { state with world := surroundings state.world label }

/-- A store root without a journal, and a server without events. -/
def emptyWorld : World where
  journal := none
  holder := none
  lease := none
  begun := none
  events := []
  deliveries := []
  acked := []
  log := []

/-- The processes from the start. -/
def custodianMachine : Machine ProcessState CustodianLabel where
  initial := ⟨emptyWorld, fun _ => none⟩
  step := custodianStep custodian

end

end Triangle.LinuxRuntime
