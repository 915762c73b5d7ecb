import Triangle.MailboxClient.History
import Triangle.MailboxClient.Host
import Triangle.Semantics.Turns

/-!
# The client in its turns

One client with the responses that its requests get, and with the history by which its
custody is told: the claims it won, the replies it was shown, the events it passed over,
and the model calls it made. An operation runs on to its next request or change of the
shared memory; what it only reads, it reads in the same turn.
-/

namespace Triangle.MailboxClient

open Triangle.Std Triangle.Semantics

/-- The event of a reply that was shown to the execution of a delivery. -/
structure Seen where
  deliveryId : Nat
  roomId : String
  event : Json

/-- A client and its history. `executing` is the delivery that a process executes. Messages
are named in `generated` and `custodies` by their places, once for each model call and each
won claim. -/
structure Custody where
  client : World
  executing : Nat → Option Nat
  won : List (Nat × String)
  skipped : List Nat
  seen : List Seen
  generated : List Nat
  custodies : List Nat

/-- What the environment decides about one call, with the responses to the requests that
read events. -/
structure Response where
  choice : Choice
  page : Except Failure Json
  pages : Nat → Nat → Except Failure Json
  appended : Json → Except Failure Json

/-- A choice for a request that ends so. -/
def Choice.ending {α : Type} (choice : Choice) : Except Failure α → Choice
  | .ok _ => { choice with fate := .answered }
  | .error failure => { choice with fate := .refused, failure }

/-- The outcome of a request for the event of a delivery. -/
def Response.told (response : Response) (workerId : String) (delivery : Delivery) :
    Except Failure RoomEvent :=
  listRoomEvent workerId delivery response.page

def Response.scanned (response : Response) (workerId roomId replyMessageId : String)
    (startSequence : Nat) : Except Failure (Option ShownReply) :=
  findExistingReply workerId roomId replyMessageId startSequence response.pages

def Response.replied (response : Response) (workerId : String) (message : Message)
    (text replyMessageId : String) : Except Failure (ShownReply × Nat) :=
  appendReply workerId message text replyMessageId response.appended

/-- What the responses come to for the client. -/
def Response.choiceFor (response : Response) (workerId : String) : Call → Choice
  | .listRoomEvent delivery =>
      let told := response.told workerId delivery
      { response.choice.ending told with event := told.toOption.getD response.choice.event }
  | .findExistingReply roomId replyMessageId startSequence =>
      let scanned := response.scanned workerId roomId replyMessageId startSequence
      { response.choice.ending scanned with found := (scanned.toOption.getD none).isSome }
  | .appendReply message text replyMessageId =>
      response.choice.ending (response.replied workerId message text replyMessageId)
  | _ => response.choice

namespace Custody

variable (custody : Custody)

def messages : List Message :=
  custody.client.memory.messages

/-- What the history keeps of a call that was answered. -/
def note (workerId : String) (process : Nat) (response : Response) :
    (request : Call) → Answer request → Custody
  | .listRoomEvent delivery, .error failure =>
      if isSkipEventError failure then { custody with skipped := delivery.id :: custody.skipped }
      else custody
  | .findExistingReply roomId replyMessageId startSequence, _ =>
      match response.scanned workerId roomId replyMessageId startSequence,
          custody.executing process with
      | .ok (some reply), some deliveryId =>
          { custody with seen := { deliveryId, roomId, event := reply.event } :: custody.seen }
      | _, _ => custody
  | .appendReply message text replyMessageId, _ =>
      match response.replied workerId message text replyMessageId with
      | .ok (reply, _) =>
          { custody with seen :=
              { deliveryId := message.id, roomId := message.contextId, event := reply.event } ::
                custody.seen }
      | .error _ => custody
  | .claim id claimId, .ok _ => { custody with won := (id, claimId) :: custody.won }
  | .beginDelivery id, true =>
      { custody with executing := Function.update custody.executing process (some id) }
  | .endDelivery _, _ =>
      { custody with executing := Function.update custody.executing process none }
  | _, _ => custody

end Custody

/-- Carry out one call of a process. -/
def performCustody (workerId : String) (process : Nat) (custody : Custody) (request : Call)
    (response : Response) : Custody × Answer request :=
  let outcome := perform custody.client request (response.choiceFor workerId request)
  ({ custody.note workerId process response request outcome.2 with client := outcome.1 },
    outcome.2)

/-- What is noted when a process issues a call. -/
def issueCustody (_ : Nat) (command : Command) (custody : Custody) (request : Call) : Custody :=
  match command, request with
  | .completeAndAcknowledge ref, .generate _ =>
      { custody with generated := ref :: custody.generated }
  | .completeAndAcknowledge ref, .changeMetadata _ (.owned _) =>
      { custody with custodies := ref :: custody.custodies }
  | _, _ => custody

/-- The calls that read what the client holds, within a turn. -/
def readsOnly : Call → Bool
  | .message _ => true
  | .signalAborted => true
  | _ => false

/-- `deterministicMailboxReplyMessageId` as the option of a client. -/
def Options.keyed (options : Options) (digest : String → String) : Options :=
  { options with replyMessageId := deterministicMailboxReplyMessageId digest }

/-- The operations of one client in their turns. -/
def custodyTurns (options : Options) (digest : String → String) :
    Turns Nat Command Call Answer Failure Outcome Custody Response where
  code := code (options.keyed digest)
  perform := performCustody options.recipientId
  issue := issueCustody
  reads := readsOnly
  readsOnly := by
    intro process custody request response isRead
    cases request with
    | message | signalAborted => rfl
    | _ => cases isRead

/-- A new client without a history. -/
def emptyCustody : Custody where
  client := emptyWorld
  executing := fun _ => none
  won := []
  skipped := []
  seen := []
  generated := []
  custodies := []

abbrev CustodyState := Turns.State Nat Command Call Answer Failure Outcome Custody

abbrev CustodyEvent := Turns.Event Nat Command Response

def custodyMachine (options : Options) (digest : String → String) :
    Machine CustodyState CustodyEvent :=
  (custodyTurns options digest).machine emptyCustody

end Triangle.MailboxClient
