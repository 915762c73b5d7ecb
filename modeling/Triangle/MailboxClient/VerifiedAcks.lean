import Triangle.MailboxClient.CustodyPrograms

/-!
# Only verified work is acknowledged

In every run of a client an acknowledgement carries a claim that the client has won, and
follows a reply that was shown where one is required; no reply and no acknowledgement is
started for a claim that was lost; the model is not called for a reply that was shown; and
one process at a time executes a delivery.

A request is started when the client calls it. What its transport then waits for is part
of the answer.
-/

namespace Triangle.MailboxClient

open Triangle.Std Triangle.Semantics

/-- A client of which nothing is assumed. -/
def Terms.ofClient (options : Options) (digest : String → String) : Terms where
  options := options
  digest := digest
  sender := fun _ => ""
  honest := False
  bounded := False
  positive := nofun

/-- A client whose server keeps the events of its rooms. -/
def Terms.ofServer (options : Options) (digest sender : String → String) : Terms where
  options := options
  digest := digest
  sender := sender
  honest := True
  bounded := False
  positive := nofun

/-- The server keeps the events of its rooms in a step of a run. -/
def KeepsEvents (options : Options) (digest sender : String → String) :
    CustodyState → CustodyEvent → Prop :=
  Turns.Meets fun process _ custody request response =>
    ServerKeeps (Terms.ofServer options digest sender) process custody response request

/-- The requests that a client must not start for a claim that it has lost. -/
def needsOwnership : Call → Bool
  | .ack _ _ => true
  | .appendReply _ _ _ => true
  | _ => false

/-- An acknowledgement is of a claim that was won: for an event that was passed over, or
for a message whose reply was shown if it requires one. -/
def AckVerified (terms : Terms) (command : Command) (id : Nat) (claimId : String)
    (custody : Custody) : Prop :=
  (id, claimId) ∈ custody.won ∧
    ((command = .listUnread ∧ id ∈ custody.skipped) ∨
      ∃ ref message, command = .completeAndAcknowledge ref ∧
        custody.messages[ref]? = some message ∧ message.id = id ∧
        message.metadata.claimId = claimId ∧
        (message.replyRequired = true → IsShown terms custody message))

section

variable {terms : Terms} {process : Nat} {command : Command} {custody : Custody}

theorem Permits.ackVerified {id : Nat} {claimId : String}
    (permits : Permits terms process command custody (.ack id claimId)) :
    AckVerified terms command id claimId custody := by
  obtain ⟨isWon, verified⟩ := permits
  refine ⟨isWon, ?_⟩
  cases command with
  | listUnread => exact .inl ⟨rfl, verified⟩
  | completeAndAcknowledge ref =>
      obtain ⟨message, isMessage, isAbout, isClaim, -, isShown⟩ := verified
      exact .inr ⟨ref, message, rfl, isMessage, isAbout, isClaim, isShown⟩
  | renewLease | others => exact verified.elim

/-- A request that needs ownership is started for a claim that is not lost. -/
theorem Permits.isHeld {ref : Nat} {request : Call}
    (permits : Permits terms process (.completeAndAcknowledge ref) custody request)
    (needs : needsOwnership request = true) :
    ∃ message, custody.messages[ref]? = some message ∧
      message.metadata.ownershipLost = false := by
  cases request with
  | ack id claimId =>
      obtain ⟨-, message, isMessage, -, -, isHeld, -⟩ := permits
      exact ⟨message, isMessage, isHeld⟩
  | appendReply given text replyMessageId =>
      obtain ⟨place, message, isPlace, isMessage, -, isHeld, -⟩ := permits
      obtain rfl := Command.completeAndAcknowledge.inj isPlace
      exact ⟨message, isMessage, isHeld⟩
  | _ => cases needs

end

/-! ## Runs -/

section

variable {options : Options} {digest sender : String → String} {terms : Terms}

/-- Every run of which nothing is assumed goes by the rules. -/
theorem sound_client (options : Options) (digest : String → String) (events : List CustodyEvent) :
    Turns.Sound (custodyTurns options digest) (Allows (Terms.ofClient options digest))
      (Later (Terms.ofClient options digest)) (Holds (Terms.ofClient options digest))
      (Meets (Terms.ofClient options digest)) ((custodyMachine options digest).run events) := by
  have rules := @custody_rules (Terms.ofClient options digest)
  refine Turns.sound_run rules holds_empty (Machine.along_of_steps ?_)
  rintro earlier event later -
  cases event with
  | start process command response => trivial
  | turn process response =>
      intro other command request _
      exact ⟨fun isHonest => isHonest.elim, fun isBounded => isBounded.elim⟩

variable {events : List CustodyEvent} {event : CustodyEvent} {process : Nat}

/-- A run whose server keeps the events of its rooms goes by the rules. -/
theorem sound_server
    (along : (custodyMachine options digest).Along (KeepsEvents options digest sender)
      (custodyMachine options digest).initial events) :
    Turns.Sound (custodyTurns options digest) (Allows (Terms.ofServer options digest sender))
      (Later (Terms.ofServer options digest sender)) (Holds (Terms.ofServer options digest sender))
      (Meets (Terms.ofServer options digest sender))
      ((custodyMachine options digest).run events) := by
  have rules := @custody_rules (Terms.ofServer options digest sender)
  refine Turns.sound_run rules holds_empty (along.mono ?_)
  intro state event keeps
  cases event with
  | start process command response => trivial
  | turn process response =>
      intro other command request isCarried
      exact ⟨fun _ => keeps other command request isCarried, fun isBounded => isBounded.elim⟩

/-- What an event carries out by the rules is an assumption of its own. -/
theorem meets_client (state : CustodyState) (event : CustodyEvent) :
    Turns.Meets (Meets (Terms.ofClient options digest)) state event := by
  cases event with
  | start process command response => trivial
  | turn process response =>
      intro other command request _
      exact ⟨fun isHonest => isHonest.elim, fun isBounded => isBounded.elim⟩

variable {command : Command} {request : Call} {given : Message}

/-- What an event issues is allowed, and noted in the world that it leads to. -/
theorem issued_client (isIssued : (custodyTurns options digest).issued
      ((custodyMachine options digest).run events) event = some (process, command, request)) :
    ∃ before, Allows (Terms.ofClient options digest) process command before request ∧
      ((custodyMachine options digest).step ((custodyMachine options digest).run events)
        event).world = issueCustody process command before request :=
  (sound_client options digest events).issued custody_rules (meets_client _ event) isIssued

/-- Messages stay, and a claim that was lost stays lost. -/
structure Endures (custody after : Custody) : Prop where
  messages : ∀ (ref : Nat) (message : Message), custody.messages[ref]? = some message →
    ∃ later, after.messages[ref]? = some later ∧ Evolves message later

theorem Endures.refl (custody : Custody) : Endures custody custody :=
  ⟨fun _ message isMessage => ⟨message, isMessage, .refl message⟩⟩

theorem Endures.trans {first second third : Custody} (early : Endures first second)
    (late : Endures second third) : Endures first third := by
  refine ⟨fun ref message isMessage => ?_⟩
  obtain ⟨between, isBetween, evolves⟩ := early.messages ref message isMessage
  obtain ⟨later, isLater, more⟩ := late.messages ref between isBetween
  exact ⟨later, isLater, evolves.trans more⟩

theorem endures_changeMetadata (custody : Custody) (place : Nat) (change : MetadataChange) :
    Endures custody { custody with
      client := custody.client.withMemory
        (custody.client.memory.changeMetadata place change) } := by
  refine ⟨fun ref message isMessage => ?_⟩
  have isOld : custody.client.memory.messages[ref]? = some message := isMessage
  refine ⟨if place = ref then message.changed change else message, ?_, ?_⟩
  · change (custody.client.memory.changeMetadata place change).messages[ref]? = _
    rw [changeMetadata_getElem?, isOld]
    rfl
  · split
    · exact evolves_changed message change
    · exact .refl message

theorem endures_same {custody after : Custody} (messages : after.messages = custody.messages) :
    Endures custody after :=
  ⟨fun _ message isMessage => ⟨message, by rw [messages, isMessage], .refl message⟩⟩

/-- A call keeps the messages, whoever makes it. -/
theorem endures_perform (workerId : String) (process : Nat) (custody : Custody) (request : Call)
    (response : Response) :
    Endures custody (performCustody workerId process custody request response).1 := by
  cases request with
  | changeMetadata place change => exact endures_changeMetadata custody place change
  | createMessage recipientId delivery event =>
      refine ⟨fun ref message isMessage => ⟨message, ?_, .refl message⟩⟩
      exact (List.getElem?_append_left (List.getElem?_eq_some_iff.mp isMessage).1).trans isMessage
  | advanceListCursor id => exact endures_same (Memory.advanceListCursor_messages _ id)
  | quarantineDelivery id reason message =>
      exact endures_same (Memory.advanceListCursor_messages _ id)
  | claim id claimId =>
      obtain ⟨server, isServer, -⟩ :=
        @perform_claim custody.client id claimId (response.choiceFor workerId (.claim id claimId))
      apply endures_same
      unfold Custody.messages performCustody
      dsimp only
      rw [isServer]
  | ack id claimId =>
      obtain ⟨server, acknowledged, isServer, -⟩ :=
        @perform_ack custody.client id claimId (response.choiceFor workerId (.ack id claimId))
      apply endures_same
      unfold Custody.messages performCustody
      dsimp only
      rw [isServer]
  | beginDelivery id =>
      apply endures_same
      unfold Custody.messages performCustody perform
      dsimp only
      split <;> rfl
  | _ =>
      apply endures_same
      unfold Custody.messages performCustody
      rfl

theorem endures_issue (process : Nat) (command : Command) (custody : Custody) (request : Call) :
    Endures custody (issueCustody process command custody request) := by
  obtain ⟨generated, custodies, isNoted⟩ := issueCustody_eq process command custody request
  rw [isNoted]
  exact endures_same rfl

theorem endures_goOn (state : CustodyState) (process : Nat) (command : Command) (custody : Custody)
    (response : Response) (program : Program Call Answer Failure Outcome) :
    Endures custody
      ((custodyTurns options digest).goOn state process command custody response program).world
    := by
  unfold Turns.goOn
  dsimp only
  cases Turns.pending ((custodyTurns options digest).readOn process custody response program) with
  | none => exact .refl custody
  | some request => exact endures_issue process command custody request

theorem endures_step (state : CustodyState) (event : CustodyEvent) :
    Endures state.world ((custodyMachine options digest).step state event).world := by
  change Endures state.world ((custodyTurns options digest).step state event).world
  cases event with
  | start process command response =>
      unfold Turns.step
      dsimp only
      split
      · exact .refl _
      · exact endures_goOn state process command state.world response _
  | turn process response =>
      unfold Turns.step
      dsimp only
      split
      · exact .refl _
      · exact .refl _
      next command request next isRunning =>
        exact (endures_perform _ process state.world request response).trans
          (endures_goOn state process command _ response _)

theorem endures_run (earlier later : List CustodyEvent) :
    Endures ((custodyMachine options digest).run earlier).world
      ((custodyMachine options digest).run (earlier ++ later)).world := by
  unfold Machine.run
  rw [Machine.runFrom_append]
  exact Machine.relation_runFrom
    (fun first second : CustodyState => Endures first.world second.world)
    (fun state => .refl state.world) Endures.trans endures_step _ later

/-! ## The parts -/

/-- No request that needs ownership is issued for a message whose claim was lost. -/
theorem unissued_of_lost {earlier later : List CustodyEvent} {ref : Nat} {message : Message}
    (isMessage : ((custodyMachine options digest).run earlier).world.messages[ref]? =
      some message) (isLost : message.metadata.ownershipLost = true)
    (isIssued : (custodyTurns options digest).issued
      ((custodyMachine options digest).run (earlier ++ later)) event =
        some (process, .completeAndAcknowledge ref, request)) : needsOwnership request = false := by
  cases needs : needsOwnership request with
  | false => rfl
  | true =>
      obtain ⟨before, allows, isAfter⟩ := issued_client isIssued
      obtain ⟨current, isCurrent, isHeld⟩ := allows.permits.isHeld needs
      -- The claim is still lost where the request is issued.
      have endures := (@endures_run options digest earlier later).trans
        (@endures_step options digest _ event)
      obtain ⟨last, isLast, evolves⟩ := endures.messages ref message isMessage
      have isStill := evolves.lost isLost
      obtain ⟨generated, custodies, isNoted⟩ :=
        issueCustody_eq process (.completeAndAcknowledge ref) before request
      rw [isAfter, isNoted] at isLast
      obtain rfl := Option.mem_unique isCurrent isLast
      rw [isHeld] at isStill
      cases isStill

/-- A renewal that reports a loss leaves the claim lost. -/
theorem lost_of_reported {state : CustodyState} {event : CustodyEvent} {process ref : Nat}
    {command : Command} {message : Message}
    (isCarried : Turns.carried state event =
      some (process, command, .changeMetadata ref .lost))
    (isMessage : state.world.messages[ref]? = some message) :
    ∃ later, ((custodyMachine options digest).step state event).world.messages[ref]? =
      some later ∧ later.metadata.ownershipLost = true := by
  cases event with
  | start starter started response => cases isCarried
  | turn taker response =>
      unfold Turns.carried at isCarried
      rw [Option.map_eq_some_iff] at isCarried
      obtain ⟨⟨own, request⟩, isWaiting, same⟩ := isCarried
      obtain ⟨rfl, rfl, rfl⟩ := (Prod.mk.injEq ..).mp same |>.imp_right (Prod.mk.injEq ..).mp
      unfold Turns.waiting at isWaiting
      cases isRunning : state.running taker with
      | none =>
          rw [isRunning] at isWaiting
          cases isWaiting
      | some entry =>
          obtain ⟨running, program⟩ := entry
          rw [isRunning] at isWaiting
          cases program with
          | done result => cases isWaiting
          | call waits next =>
              obtain ⟨rfl, rfl⟩ := Prod.mk.inj (Option.some.inj isWaiting)
              have isOld : state.world.client.memory.messages[ref]? = some message := isMessage
              have isNow : (state.world.client.memory.changeMetadata ref .lost).messages[ref]? =
                  some (message.changed .lost) := by
                rw [changeMetadata_getElem?, isOld]
                simp
              change ∃ later, ((custodyTurns options digest).step state
                (.turn taker response)).world.messages[ref]? = some later ∧ _
              simp only [Turns.step, isRunning]
              have endures := @endures_goOn options digest state taker running
                { state.world with
                  client := state.world.client.withMemory
                    (state.world.client.memory.changeMetadata ref .lost) } response
              obtain ⟨later, isLater, evolves⟩ := (endures _).messages ref _ isNow
              exact ⟨later, isLater, evolves.lost rfl⟩

/-- A model call is for a message without a reply, and of a server that keeps its events
for a delivery to which no reply was shown. -/
theorem generate_unreplied (isIssued : (custodyTurns options digest).issued
      ((custodyMachine options digest).run events) event =
        some (process, command, .generate given)) :
    ∃ ref message, command = .completeAndAcknowledge ref ∧
      ((custodyMachine options digest).step ((custodyMachine options digest).run events)
        event).world.messages[ref]? = some message ∧ message.id = given.id ∧
      message.metadata.replyPersisted = false := by
  obtain ⟨before, allows, isAfter⟩ := issued_client isIssued
  obtain ⟨ref, message, isCommand, isMessage, evolves, unreplied, -⟩ := allows.permits
  refine ⟨ref, message, isCommand, ?_, evolves.id, unreplied⟩
  obtain ⟨generated, custodies, isNoted⟩ := issueCustody_eq process command before (.generate given)
  rw [isAfter, isNoted]
  exact isMessage

theorem generate_unseen
    (along : (custodyMachine options digest).Along (KeepsEvents options digest sender)
      (custodyMachine options digest).initial (events ++ [event]))
    (isIssued : (custodyTurns options digest).issued
      ((custodyMachine options digest).run events) event =
        some (process, command, .generate given)) :
    ∀ seen ∈ ((custodyMachine options digest).step ((custodyMachine options digest).run events)
      event).world.seen, seen.deliveryId ≠ given.id := by
  obtain ⟨before, keeps⟩ := along.step
  have meets : Turns.Meets (Meets (Terms.ofServer options digest sender))
      ((custodyMachine options digest).run events) event := by
    cases event with
    | start starter started response => trivial
    | turn taker response =>
        intro other otherCommand request isCarried
        exact ⟨fun _ => keeps other otherCommand request isCarried,
          fun isBounded => isBounded.elim⟩
  obtain ⟨custody, allows, isAfter⟩ := (sound_server before).issued custody_rules meets isIssued
  obtain ⟨ref, message, -, -, -, -, -, unseen, -⟩ := allows.permits
  obtain ⟨generated, custodies, isNoted⟩ :=
    issueCustody_eq process command custody (.generate given)
  have same : ((custodyMachine options digest).step ((custodyMachine options digest).run events)
      event).world.seen = custody.seen := by
    have noted := congrArg Custody.seen isNoted
    exact (congrArg Custody.seen isAfter).trans noted
  rw [same]
  exact unseen trivial

/-- Two processes that have begun to execute a delivery are one. -/
theorem one_execution {first second firstRef secondRef : Nat} {firstCall secondCall : Call}
    {firstMessage secondMessage : Message}
    (isFirst : Turns.waiting ((custodyMachine options digest).run events) first =
      some (.completeAndAcknowledge firstRef, firstCall))
    (isSecond : Turns.waiting ((custodyMachine options digest).run events) second =
      some (.completeAndAcknowledge secondRef, secondCall))
    (hasBegun : ∀ id, firstCall ≠ .beginDelivery id)
    (hasBegunToo : ∀ id, secondCall ≠ .beginDelivery id)
    (isFirstMessage : ((custodyMachine options digest).run events).world.messages[firstRef]? =
      some firstMessage)
    (isSecondMessage : ((custodyMachine options digest).run events).world.messages[secondRef]? =
      some secondMessage) (same : firstMessage.id = secondMessage.id) : first = second := by
  have sound := sound_client options digest events
  -- A process that has begun executes the delivery of its message.
  have executes : ∀ process ref request message,
      Turns.waiting ((custodyMachine options digest).run events) process =
        some (.completeAndAcknowledge ref, request) → (∀ id, request ≠ .beginDelivery id) →
      ((custodyMachine options digest).run events).world.messages[ref]? = some message →
      ((custodyMachine options digest).run events).world.executing process = some message.id := by
    intro process ref request message isWaiting begun isMessage
    obtain ⟨before, allows, isLater⟩ := sound.waiting isWaiting
    have isLater : Later (Terms.ofClient options digest) process
        (issueCustody process (.completeAndAcknowledge ref) before request)
        ((custodyMachine options digest).run events).world := isLater
    obtain ⟨generated, custodies, isNoted⟩ :=
      issueCustody_eq process (.completeAndAcknowledge ref) before request
    rw [isNoted] at isLater
    rcases allows.within ref rfl with ⟨id, isBegin⟩ | ⟨current, isCurrent, isExecuting⟩
    · exact absurd isBegin (begun id)
    · obtain ⟨later, isThere, evolves⟩ := isLater.messages ref current isCurrent
      obtain rfl := Option.mem_unique isThere isMessage
      rw [evolves.id]
      exact isLater.executing.trans isExecuting
  have isFirstExecuting := executes first firstRef firstCall firstMessage isFirst hasBegun
    isFirstMessage
  have isSecondExecuting := executes second secondRef secondCall secondMessage isSecond hasBegunToo
    isSecondMessage
  rw [same] at isFirstExecuting
  exact sound.world.alone first second _ isFirstExecuting isSecondExecuting

end

/-- In every run of a client: an acknowledgement is verified, and carries the claim id with
which the claim was won; once a renewal has reported a claim lost, no acknowledgement and
no reply is started for it; the model is called for a message without a durable reply
only, and of a server that keeps the events of its rooms only for a delivery to which no
reply was shown; two calls that have begun to execute one delivery are one. -/
theorem acks_verified (options : Options) (digest : String → String) :
    (∀ events event process command id claimId,
      (custodyTurns options digest).issued ((custodyMachine options digest).run events) event =
        some (process, command, .ack id claimId) →
      AckVerified (Terms.ofClient options digest) command id claimId
        ((custodyMachine options digest).step ((custodyMachine options digest).run events)
          event).world) ∧
    (∀ earlier report later event reporter reported ref message process request,
      Turns.carried ((custodyMachine options digest).run earlier) report =
        some (reporter, reported, .changeMetadata ref .lost) →
      ((custodyMachine options digest).run earlier).world.messages[ref]? = some message →
      (custodyTurns options digest).issued
        ((custodyMachine options digest).run (earlier ++ [report] ++ later)) event =
          some (process, .completeAndAcknowledge ref, request) →
      needsOwnership request = false) ∧
    (∀ events event process command given,
      (custodyTurns options digest).issued ((custodyMachine options digest).run events) event =
        some (process, command, .generate given) →
      (∃ ref message, command = .completeAndAcknowledge ref ∧
        ((custodyMachine options digest).step ((custodyMachine options digest).run events)
          event).world.messages[ref]? = some message ∧ message.id = given.id ∧
        message.metadata.replyPersisted = false) ∧
      ∀ sender, (custodyMachine options digest).Along (KeepsEvents options digest sender)
          (custodyMachine options digest).initial (events ++ [event]) →
        ∀ seen ∈ ((custodyMachine options digest).step ((custodyMachine options digest).run events)
          event).world.seen, seen.deliveryId ≠ given.id) ∧
    (∀ events first second firstRef secondRef firstCall secondCall firstMessage secondMessage,
      Turns.waiting ((custodyMachine options digest).run events) first =
        some (.completeAndAcknowledge firstRef, firstCall) →
      Turns.waiting ((custodyMachine options digest).run events) second =
        some (.completeAndAcknowledge secondRef, secondCall) →
      (∀ id, firstCall ≠ .beginDelivery id) → (∀ id, secondCall ≠ .beginDelivery id) →
      ((custodyMachine options digest).run events).world.messages[firstRef]? = some firstMessage →
      ((custodyMachine options digest).run events).world.messages[secondRef]? =
        some secondMessage →
      Message.id firstMessage = Message.id secondMessage → first = second) := by
  refine ⟨?_, ?_, ?_, ?_⟩
  · intro events event process command id claimId isIssued
    obtain ⟨before, allows, isAfter⟩ := issued_client isIssued
    obtain ⟨generated, custodies, isNoted⟩ :=
      issueCustody_eq process command before (.ack id claimId)
    rw [isAfter, isNoted]
    exact allows.permits.ackVerified
  · intro earlier report later event reporter reported ref message process request isCarried
      isMessage isIssued
    obtain ⟨lost, isLostMessage, isLost⟩ :=
      @lost_of_reported options digest _ report reporter ref reported message isCarried isMessage
    rw [← Machine.run_snoc] at isLostMessage
    exact unissued_of_lost isLostMessage isLost isIssued
  · intro events event process command given isIssued
    exact ⟨generate_unreplied isIssued, fun sender along => generate_unseen along isIssued⟩
  · intro events first second firstRef secondRef firstCall secondCall firstMessage secondMessage
      isFirst isSecond begun begunToo isFirstMessage isSecondMessage same
    exact one_execution isFirst isSecond begun begunToo isFirstMessage isSecondMessage same

/-! ## A run with a reply -/

def sampleWorker : String :=
  "agent_aaaaaaaaaaaaaaaaaaaaaaaaaaaaaaaa"

def sampleRoom : String :=
  "room_00000000000000000000000000000000"

/-- A client with one attempt for a delivery. -/
def oneAttempt : Options where
  recipientId := sampleWorker
  pageLimit := 1
  maxDeliveryAttempts := 1
  maxAckAttempts := 8
  maxListAttempts := 3
  replyMessageId := fun _ => ""

def sampleDigest : String → String :=
  fun _ => "digest"

def historyPage (items : List Json) : Json :=
  .obj [("roomId", .str sampleRoom), ("items", .arr items)]

/-- The event of the delivery. -/
def sampleEvent : Json :=
  .obj [("id", .str "event_00000000000000000000000000000001"), ("roomId", .str sampleRoom),
    ("sequence", .int 1), ("senderAgentId", .str "agent_bbbbbbbbbbbbbbbbbbbbbbbbbbbbbbbb"),
    ("type", .str "message.created"), ("body", .obj [("text", .str "hi")])]

/-- The response to an append that is refused with the status 403. -/
def refusedAppend : Except Failure Json :=
  .error { message := "Mailbox request failed with status 403", status := some 403 }

/-- The response to an append of the reply. -/
def acceptedAppend : Except Failure Json :=
  .ok (.obj [("event", .obj [("id", .str "event_00000000000000000000000000000002"),
    ("roomId", .str sampleRoom), ("sequence", .int 2), ("senderAgentId", .str sampleWorker),
    ("type", .str "message.created"), ("idempotency_key", .str "reply_digest"),
    ("body", .obj [("text", .str "ok"), ("replyRequired", .bool false),
      ("inReplyToEventId", .str "event_00000000000000000000000000000001")])])])

/-- Every request is answered, but for the append. -/
def sampleResponse (appended : Except Failure Json) : Response where
  choice :=
    { fate := .answered, failure := missingMetadata, event := ⟨"", "", "", "", false⟩,
      claimId := "claim", leaseExpiresAt := none, found := false, text := "ok", aborted := false,
      now := "" }
  page := .ok (historyPage [sampleEvent])
  pages := fun _ _ => .ok (historyPage [])
  appended := fun _ => appended

/-- A process runs a command for some turns. -/
def sampleRun (appended : Except Failure Json) (command : Command) (turns : Nat) :
    List CustodyEvent :=
  .start 0 command (sampleResponse appended) ::
    List.replicate turns (.turn 0 (sampleResponse appended))

/-- The delivery arrives, is listed and executed. -/
def executed (appended : Except Failure Json) (turns : Nat) : List CustodyEvent :=
  sampleRun appended
      (.others (.arrive sampleRoom "event_00000000000000000000000000000001" 1 none)) 2 ++
    sampleRun appended .listUnread 9 ++ sampleRun appended (.completeAndAcknowledge 0) turns

/-- What an issued acknowledgement acknowledges. -/
def ackOf : Option (Nat × Command × Call) → Option (Nat × Nat × Nat × String)
  | some (process, .completeAndAcknowledge ref, .ack id claimId) =>
      some (process, ref, id, claimId)
  | _ => none

theorem issued_of_ackOf {issued : Option (Nat × Command × Call)} {process ref id : Nat}
    {claimId : String} (isAck : ackOf issued = some (process, ref, id, claimId)) :
    issued = some (process, .completeAndAcknowledge ref, .ack id claimId) := by
  unfold ackOf at isAck
  split at isAck
  next => cases isAck; rfl
  next => cases isAck

/-- The delivery is acknowledged after its reply was appended. -/
theorem executed_acknowledges :
    AckVerified (Terms.ofClient oneAttempt sampleDigest) (.completeAndAcknowledge 0) 1 "claim"
      ((custodyMachine oneAttempt sampleDigest).step
        ((custodyMachine oneAttempt sampleDigest).run (executed acceptedAppend 10))
        (.turn 0 (sampleResponse acceptedAppend))).world := by
  refine (acks_verified oneAttempt sampleDigest).1 (executed acceptedAppend 10)
    (.turn 0 (sampleResponse acceptedAppend)) 0 _ 1 "claim" (issued_of_ackOf ?_)
  decide +kernel

end Triangle.MailboxClient
