import Triangle.MailboxClient.VerifiedAcks

/-!
# Poison deliveries

How often a client gives one delivery to the model, and what becomes of a delivery whose
processing keeps failing. Attempts are counted on the message object of a delivery, so
both hold for the runs that count the attempt whenever they drop a message, and that work
on a delivery with one message only.
-/

namespace Triangle.MailboxClient

open Triangle.Std Triangle.Semantics

/-- A client that counts every attempt. -/
def Terms.ofCounting (options : Options) (digest : String → String)
    (positive : 0 < options.maxDeliveryAttempts) : Terms where
  options := options
  digest := digest
  sender := fun _ => ""
  honest := False
  bounded := True
  positive := fun _ => positive

/-! ## Calls for one delivery -/

namespace Custody

variable (custody : Custody)

/-- The message at a place is of the delivery. -/
def isOf (id ref : Nat) : Bool :=
  (custody.messages[ref]?).any fun message => message.id = id

/-- How many of the calls were for a delivery. -/
def callsFor (calls : List Nat) (id : Nat) : Nat :=
  calls.countP (custody.isOf id)

/-- The messages at two places are of one delivery. -/
def sameDelivery (first second : Nat) : Bool :=
  (custody.messages[first]?).any fun message => custody.isOf message.id second

/-- The messages with which deliveries were worked on. -/
def worked : List Nat :=
  custody.generated ++ custody.custodies

end Custody

/-- The calls that are noted: a won claim, and a model call. -/
def isNoted : Call → Bool
  | .generate _ => true
  | .changeMetadata _ (.owned _) => true
  | _ => false

/-! ## The condition -/

/-- The delivery that a call quarantines. -/
def quarantines : Call → Option Nat
  | .quarantineDelivery id _ _ => some id
  | _ => none

instance {terms : Terms} {process : Nat} {command : Command} {custody : Custody}
    {request : Call} {response : Response} :
    Decidable (CountsAttempts terms process command custody request response) :=
  match command with
  | .completeAndAcknowledge ref =>
      decidable_of_iff
        (((failureOf request
          (performCustody terms.workerId process custody request response).2).all fun failure =>
            !isUncounted failure || (custody.messages[ref]?).any (·.metadata.replyPersisted)) =
              true)
        (by simp [CountsAttempts, Option.all_eq_true, Option.any_eq_true])
  | .listUnread =>
      decidable_of_iff ((quarantines request).all (fun id => !custody.isActive id) = true)
        (by cases request <;> simp [CountsAttempts, quarantines])
  | .renewLease _ => isTrue trivial
  | .others _ => isTrue trivial

section

variable (options : Options) (digest : String → String)

/-- A step of a run counts the attempt that it drops: no request that an execution makes
under its claim, before its reply is durable, fails with a denial or a lost ownership, and no
listing quarantines a delivery that is executed. -/
def KeepsCount (state : CustodyState) (event : CustodyEvent) : Prop :=
  Turns.Meets (CountsAttempts (Terms.ofClient options digest)) state event

/-- A step of a run works on a delivery with the message of its earlier work. -/
def KeepsMessage (state : CustodyState) (event : CustodyEvent) : Prop :=
  ∀ process ref request, (custodyTurns options digest).issued state event =
    some (process, .completeAndAcknowledge ref, request) → isNoted request = true →
      ∀ earlier ∈ state.world.worked,
        ((custodyMachine options digest).step state event).world.sameDelivery earlier ref = true →
          earlier = ref

/-- A step of a run that keeps the account of the attempts. -/
def KeepsAccount (state : CustodyState) (event : CustodyEvent) : Prop :=
  KeepsCount options digest state event ∧ KeepsMessage options digest state event

end

/-- Whether an event keeps the message of the earlier work. -/
def keepsMessage (options : Options) (digest : String → String) (state : CustodyState)
    (event : CustodyEvent) : Bool :=
  match (custodyTurns options digest).issued state event with
  | some (_, .completeAndAcknowledge ref, request) =>
      !isNoted request || state.world.worked.all fun earlier =>
        earlier = ref ||
          !((custodyMachine options digest).step state event).world.sameDelivery earlier ref
  | _ => true

variable {options : Options} {digest : String → String} {state : CustodyState}
  {event : CustodyEvent}

theorem keepsMessage_of (keeps : keepsMessage options digest state event = true) :
    KeepsMessage options digest state event := by
  intro process ref request isIssued noted earlier isEarlier same
  unfold keepsMessage at keeps
  rw [isIssued] at keeps
  simp only [noted, Bool.not_true, Bool.false_or, List.all_eq_true] at keeps
  simpa [same] using keeps earlier isEarlier

/-- Whether an event counts the attempt that it drops. -/
def keepsCount (options : Options) (digest : String → String) (state : CustodyState) :
    CustodyEvent → Bool
  | .start _ _ _ => true
  | .turn process response =>
      (Turns.carried state (.turn process response)).all fun (process, command, request) =>
        decide (CountsAttempts (Terms.ofClient options digest) process command state.world request
          response)

theorem keepsCount_of (keeps : keepsCount options digest state event = true) :
    KeepsCount options digest state event := by
  cases event with
  | start process command response => trivial
  | turn taker response =>
      intro process command request isCarried
      unfold keepsCount at keeps
      dsimp only at keeps
      rw [isCarried] at keeps
      exact of_decide_eq_true keeps

/-! ## One message -/

/-- The work on a delivery was on one of its messages. -/
def OneMessage (custody : Custody) : Prop :=
  ∀ first ∈ custody.worked, ∀ second ∈ custody.worked,
    custody.sameDelivery first second = true → first = second

section

variable {options : Options} {digest : String → String} {custody after : Custody}

variable {id ref first second : Nat} {calls : List Nat} {events : List CustodyEvent}

theorem isOf_iff :
    custody.isOf id ref = true ↔ ∃ message, custody.messages[ref]? = some message ∧
      message.id = id := by
  unfold Custody.isOf
  rw [Option.any_eq_true]
  simp only [decide_eq_true_eq]

/-- A message that was there is of the same delivery later. -/
theorem Endures.isOf (endures : Endures custody after) (isThere : ref < custody.messages.length) :
    after.isOf id ref = custody.isOf id ref := by
  obtain ⟨later, isLater, evolves⟩ := endures.messages ref _ (List.getElem?_eq_getElem isThere)
  unfold Custody.isOf
  rw [isLater, List.getElem?_eq_getElem isThere]
  simp only [Option.any_some, evolves.id]

theorem sameDelivery_of_isOf (isFirst : custody.isOf id first = true)
    (isSecond : custody.isOf id second = true) : custody.sameDelivery first second = true := by
  obtain ⟨message, isMessage, rfl⟩ := isOf_iff.mp isFirst
  unfold Custody.sameDelivery
  rw [isMessage]
  exact isSecond

theorem sameDelivery_comm (same : custody.sameDelivery first second = true) :
    custody.sameDelivery second first = true := by
  unfold Custody.sameDelivery at same
  rw [Option.any_eq_true] at same
  obtain ⟨message, isMessage, isSecond⟩ := same
  exact sameDelivery_of_isOf isSecond (isOf_iff.mpr ⟨message, isMessage, rfl⟩)

/-- Calls for one message are all the calls for its delivery. -/
theorem callsFor_le_count (one : OneMessage custody) (isWorked : calls ⊆ custody.worked)
    (isCall : ref ∈ calls) (isOwn : custody.isOf id ref = true) :
    custody.callsFor calls id ≤ calls.count ref := by
  refine List.countP_mono_left fun other isOther isOfToo => ?_
  rw [one other (isWorked isOther) ref (isWorked isCall) (sameDelivery_of_isOf isOfToo isOwn)]
  exact beq_self_eq_true ref

/-- A delivery for which there are calls has a message with one. -/
theorem exists_of_callsFor (some_ : 0 < custody.callsFor calls id) :
    ∃ ref ∈ calls, custody.isOf id ref = true :=
  List.countP_pos_iff.mp some_

theorem callsFor_le (one : OneMessage custody) (isWorked : calls ⊆ custody.worked) {bound : Nat}
    (few : ∀ ref, calls.count ref ≤ bound) (id : Nat) : custody.callsFor calls id ≤ bound := by
  rcases Nat.eq_zero_or_pos (custody.callsFor calls id) with none_ | some_
  · rw [none_]
    exact Nat.zero_le bound
  · obtain ⟨ref, isCall, isOwn⟩ := exists_of_callsFor some_
    exact (callsFor_le_count one isWorked isCall isOwn).trans (few ref)

/-! ## Steps -/

variable (workerId : String) (process : Nat)

/-- Carrying out a call notes no call. -/
theorem note_noted (custody : Custody) (request : Call) (response : Response)
    (answer : Answer request) :
    (custody.note workerId process response request answer).generated = custody.generated ∧
      (custody.note workerId process response request answer).custodies = custody.custodies := by
  cases request with
  | listRoomEvent delivery =>
      cases answer with
      | ok event => exact ⟨rfl, rfl⟩
      | error failure =>
          unfold Custody.note
          dsimp only
          split <;> exact ⟨rfl, rfl⟩
  | findExistingReply | appendReply =>
      unfold Custody.note
      dsimp only
      split <;> exact ⟨rfl, rfl⟩
  | claim | beginDelivery => cases answer <;> exact ⟨rfl, rfl⟩
  | _ => exact ⟨rfl, rfl⟩

/-- A quarantined delivery stays quarantined, whoever makes a call. -/
theorem perform_quarantined (request : Call) (response : Response)
    (isHeld : custody.isQuarantined id = true) :
    (performCustody workerId process custody request response).1.isQuarantined id = true := by
  -- The calls that leave the quarantine.
  have same : ∀ after : Custody, after.client.memory.quarantinedDeliveries =
      custody.client.memory.quarantinedDeliveries → after.isQuarantined id = true := by
    intro after isSame
    unfold Custody.isQuarantined Memory.isQuarantined at isHeld ⊢
    rw [isSame]
    exact isHeld
  cases request with
  | quarantineDelivery taken reason message =>
      change (custody.client.memory.quarantineDelivery taken reason message _).isQuarantined id =
        true
      rw [isQuarantined_quarantine, Bool.or_eq_true]
      exact .inr isHeld
  | advanceListCursor taken =>
      exact same _ (Memory.advanceListCursor_quarantinedDeliveries _ taken)
  | claim taken claimId =>
      obtain ⟨server, isServer, -⟩ :=
        @perform_claim custody.client taken claimId
          (response.choiceFor workerId (.claim taken claimId))
      apply same
      unfold performCustody
      dsimp only
      rw [isServer]
  | ack taken claimId =>
      obtain ⟨server, acknowledged, isServer, -⟩ :=
        @perform_ack custody.client taken claimId
          (response.choiceFor workerId (.ack taken claimId))
      apply same
      unfold performCustody
      dsimp only
      rw [isServer]
  | beginDelivery taken =>
      apply same
      unfold performCustody perform
      dsimp only
      split <;> rfl
  | _ =>
      apply same
      unfold performCustody
      rfl

/-- What an event leaves of a world: its messages and its quarantine, and what is noted of
the call that it issues. -/
theorem custody_step (options : Options) (digest : String → String) (state : CustodyState)
    (event : CustodyEvent) :
    ∃ between, Endures state.world between ∧ between.generated = state.world.generated ∧
      between.custodies = state.world.custodies ∧
      (∀ id, state.world.isQuarantined id = true → between.isQuarantined id = true) ∧
      ((custodyMachine options digest).step state event).world =
        ((custodyTurns options digest).issued state event).elim between
          fun (process, command, request) => issueCustody process command between request := by
  obtain ⟨between, isBetween, isAfter⟩ := (custodyTurns options digest).step_world event
  refine ⟨between, ?_, ?_, ?_, ?_, isAfter⟩
  all_goals
    rcases isBetween with rfl | ⟨process, command, request, response, -, rfl⟩
  · exact .refl _
  · exact endures_perform options.recipientId process state.world request response
  · rfl
  · exact (note_noted options.recipientId process state.world request response _).1
  · rfl
  · exact (note_noted options.recipientId process state.world request response _).2
  · exact fun id isHeld => isHeld
  · exact fun id => perform_quarantined options.recipientId process request response

/-- What was in quarantine stays there. -/
theorem quarantined_step (state : CustodyState) (event : CustodyEvent) {id : Nat}
    (isHeld : state.world.isQuarantined id = true) :
    ((custodyMachine options digest).step state event).world.isQuarantined id = true := by
  obtain ⟨between, -, -, -, quarantined, isAfter⟩ := custody_step options digest state event
  rw [isAfter]
  cases (custodyTurns options digest).issued state event with
  | none => exact quarantined id isHeld
  | some entry =>
      obtain ⟨process, command, request⟩ := entry
      obtain ⟨generated, custodies, isNoted⟩ := issueCustody_eq process command between request
      change (issueCustody process command between request).isQuarantined id = true
      rw [isNoted]
      exact quarantined id isHeld

theorem quarantined_run (earlier later : List CustodyEvent)
    (isHeld : ((custodyMachine options digest).run earlier).world.isQuarantined id = true) :
    ((custodyMachine options digest).run (earlier ++ later)).world.isQuarantined id = true := by
  unfold Machine.run
  rw [Machine.runFrom_append]
  exact Machine.relation_runFrom
    (fun first second : CustodyState =>
      first.world.isQuarantined id = true → second.world.isQuarantined id = true)
    (fun _ isFirst => isFirst) (fun early late isFirst => late (early isFirst))
    (fun state event => quarantined_step state event) _ later isHeld

/-- What an event adds to the work on deliveries. -/
theorem worked_step (options : Options) (digest : String → String) (state : CustodyState)
    (event : CustodyEvent)
    (isWorked : ref ∈ ((custodyMachine options digest).step state event).world.worked) :
    ref ∈ state.world.worked ∨ ∃ process request,
      (custodyTurns options digest).issued state event =
        some (process, .completeAndAcknowledge ref, request) ∧ isNoted request = true := by
  obtain ⟨between, -, sameCalls, sameClaims, -, isAfter⟩ :=
    custody_step options digest state event
  have same : between.worked = state.world.worked := by
    unfold Custody.worked
    rw [sameCalls, sameClaims]
  rw [isAfter] at isWorked
  cases isIssued : (custodyTurns options digest).issued state event with
  | none =>
      rw [isIssued] at isWorked
      change ref ∈ between.worked at isWorked
      exact .inl (same ▸ isWorked)
  | some entry =>
      obtain ⟨process, command, request⟩ := entry
      rw [isIssued] at isWorked
      change ref ∈ (issueCustody process command between request).worked at isWorked
      rw [← same]
      unfold issueCustody at isWorked
      split at isWorked
      next place given =>
        rcases List.mem_cons.mp isWorked with rfl | isOld
        · exact .inr ⟨process, .generate given, rfl, rfl⟩
        · exact .inl isOld
      next place other leaseExpiresAt =>
        rcases List.mem_append.mp isWorked with isCall | isClaim
        · exact .inl (List.mem_append_left _ isCall)
        · rcases List.mem_cons.mp isClaim with rfl | isOld
          · exact .inr ⟨process, _, rfl, rfl⟩
          · exact .inl (List.mem_append_right _ isOld)
      next => exact .inl isWorked

/-! ## Runs -/

variable (positive : 0 < options.maxDeliveryAttempts)

/-- What is noted of a call has a message. -/
theorem sound_counting (along : (custodyMachine options digest).Along (KeepsCount options digest)
      (custodyMachine options digest).initial events) :
    Turns.Sound (custodyTurns options digest) (Allows (Terms.ofCounting options digest positive))
      (Later (Terms.ofCounting options digest positive))
      (Holds (Terms.ofCounting options digest positive))
      (Meets (Terms.ofCounting options digest positive))
      ((custodyMachine options digest).run events) := by
  have rules := @custody_rules (Terms.ofCounting options digest positive)
  refine Turns.sound_run rules holds_empty (along.mono ?_)
  intro state event keeps
  cases event with
  | start process command response => trivial
  | turn process response =>
      intro other command request isCarried
      exact ⟨fun isHonest => isHonest.elim, fun _ => keeps other command request isCarried⟩

/-- A step keeps the work on a delivery on one message. -/
theorem OneMessage.step {state : CustodyState} {event : CustodyEvent}
    (one : OneMessage state.world)
    (isThere : ∀ ref ∈ state.world.worked, ref < state.world.messages.length)
    (keeps : KeepsMessage options digest state event) :
    OneMessage ((custodyMachine options digest).step state event).world := by
  have endures := @endures_step options digest state event
  intro first isFirst second isSecond same
  rcases worked_step options digest state event isFirst with
    old | ⟨process, request, isIssued, noted⟩
  · rcases worked_step options digest state event isSecond with
      otherOld | ⟨process, request, isIssued, noted⟩
    · refine one first old second otherOld ?_
      unfold Custody.sameDelivery at same ⊢
      rw [Option.any_eq_true] at same ⊢
      obtain ⟨later, isLater, isOther⟩ := same
      have isMessage := List.getElem?_eq_getElem (isThere first old)
      obtain ⟨evolved, isEvolved, evolves⟩ := endures.messages first _ isMessage
      obtain rfl := Option.mem_unique isEvolved isLater
      refine ⟨_, isMessage, ?_⟩
      rw [endures.isOf (isThere second otherOld), evolves.id] at isOther
      exact isOther
    · exact keeps process second request isIssued noted first old same
  · rcases worked_step options digest state event isSecond with
      otherOld | ⟨other, otherRequest, isOther, -⟩
    · exact (keeps process first request isIssued noted second otherOld
        (sameDelivery_comm same)).symm
    · obtain ⟨-, isSame, -⟩ := (Prod.mk.injEq ..).mp
        (Option.mem_unique isIssued isOther) |>.imp_right (Prod.mk.injEq ..).mp
      exact Command.completeAndAcknowledge.inj isSame

/-- In a run that keeps the account, every delivery was worked on with one message. -/
theorem oneMessage_run (positive : 0 < options.maxDeliveryAttempts)
    (along : (custodyMachine options digest).Along (KeepsAccount options digest)
      (custodyMachine options digest).initial events) :
    OneMessage ((custodyMachine options digest).run events).world := by
  induction events using List.reverseRecOn with
  | nil => exact fun first isFirst => absurd isFirst List.not_mem_nil
  | append_singleton earlier event ih =>
      obtain ⟨before, -, keepsMessage⟩ := along.step
      have holds := (sound_counting positive (before.mono fun _ _ keeps => keeps.1)).world
      rw [Machine.run_snoc]
      refine (ih before).step (fun ref isWorked => ?_) keepsMessage
      exact holds.counted ref (List.mem_append.mp isWorked)

/-- A delivery in quarantine is not given to the model. -/
theorem generate_unquarantined (positive : 0 < options.maxDeliveryAttempts)
    {earlier middle later : List CustodyEvent} {event : CustodyEvent}
    (along : (custodyMachine options digest).Along (KeepsCount options digest)
      (custodyMachine options digest).initial (earlier ++ middle ++ event :: later))
    {process : Nat} {command : Command} {given : Message}
    (isIssued : (custodyTurns options digest).issued
      ((custodyMachine options digest).run (earlier ++ middle)) event =
        some (process, command, .generate given)) :
    ((custodyMachine options digest).run earlier).world.isQuarantined given.id = false := by
  obtain ⟨before, keeps⟩ := along.step
  have meets : Turns.Meets (Meets (Terms.ofCounting options digest positive))
      ((custodyMachine options digest).run (earlier ++ middle)) event := by
    cases event with
    | start starter started response => trivial
    | turn taker response =>
        intro other otherCommand request isCarried
        exact ⟨fun isHonest => isHonest.elim,
          fun _ => keeps other otherCommand request isCarried⟩
  obtain ⟨custody, allows, isAfter⟩ :=
    (sound_counting positive before).issued custody_rules meets isIssued
  obtain ⟨ref, message, -, -, -, -, -, -, within⟩ := allows.permits
  have free := (within trivial).1
  cases isHeld : ((custodyMachine options digest).run earlier).world.isQuarantined given.id with
  | false => rfl
  | true =>
      have isStill := @quarantined_step options digest _ event given.id
        (quarantined_run earlier middle isHeld)
      obtain ⟨generated, custodies, isNoted⟩ :=
        issueCustody_eq process command custody (.generate given)
      have same : ((custodyMachine options digest).step
          ((custodyMachine options digest).run (earlier ++ middle)) event).world.isQuarantined
            given.id = custody.isQuarantined given.id := by
        have noted := congrArg (fun world => Custody.isQuarantined world given.id) isNoted
        exact (congrArg (fun world => Custody.isQuarantined world given.id) isAfter).trans noted
      rw [same, free] at isStill
      cases isStill

/-- A delivery that nobody executes, with as many won claims as it has attempts, is
quarantined, unless it was acknowledged, its reply is durable or its claim was lost. -/
theorem quarantined_of_claims {custody : Custody}
    (holds : Holds (Terms.ofCounting options digest positive) custody) (one : OneMessage custody)
    (idle : custody.isActive id = false)
    (many : options.maxDeliveryAttempts ≤ custody.callsFor custody.custodies id) :
    custody.isQuarantined id = true ∨ id ∈ custody.acknowledged ∨
      ∃ message ∈ custody.messages, message.id = id ∧
        (message.metadata.replyPersisted = true ∨ message.metadata.ownershipLost = true) := by
  obtain ⟨ref, isClaim, isOwn⟩ := exists_of_callsFor (positive.trans_le many)
  have claims := callsFor_le_count one (List.subset_append_right _ _) isClaim isOwn
  obtain ⟨message, isMessage, isAbout⟩ := isOf_iff.mp isOwn
  have clear := holds.settled trivial id idle ref message isMessage isAbout
  rw [← isAbout]
  rcases clear.accounted.custodies with isDone | isHeld | notOwed
  · exact .inr (.inl isDone)
  · exact .inl isHeld
  · cases isPersisted : message.metadata.replyPersisted with
    | true =>
        exact .inr (.inr ⟨message, List.mem_of_getElem? isMessage, rfl, .inl isPersisted⟩)
    | false =>
        cases isLost : message.metadata.ownershipLost with
        | true => exact .inr (.inr ⟨message, List.mem_of_getElem? isMessage, rfl, .inr isLost⟩)
        | false =>
            left
            refine clear.attempts.resolve_left fun few => notOwed ⟨isPersisted, isLost, ?_⟩
            have few : message.metadata.processingAttempts < options.maxDeliveryAttempts := few
            omega

end

/-- In every run that keeps the account of its attempts: the model is called for a delivery
as often as its attempts allow at most, and not after the delivery was quarantined; and a
delivery that nobody executes, with as many won claims as it has attempts, is quarantined,
unless it was acknowledged, its reply is durable or its claim was lost. -/
theorem poison_bounded (options : Options) (digest : String → String)
    (positive : 0 < options.maxDeliveryAttempts) (events : List CustodyEvent)
    (along : (custodyMachine options digest).Along (KeepsAccount options digest)
      (custodyMachine options digest).initial events) :
    (∀ id, ((custodyMachine options digest).run events).world.callsFor
      ((custodyMachine options digest).run events).world.generated id ≤
        options.maxDeliveryAttempts) ∧
    (∀ earlier middle event later, events = earlier ++ middle ++ event :: later →
      ∀ process command given, (custodyTurns options digest).issued
        ((custodyMachine options digest).run (earlier ++ middle)) event =
          some (process, command, .generate given) →
        ((custodyMachine options digest).run earlier).world.isQuarantined given.id = false) ∧
    (∀ id, ((custodyMachine options digest).run events).world.isActive id = false →
      options.maxDeliveryAttempts ≤ ((custodyMachine options digest).run events).world.callsFor
        ((custodyMachine options digest).run events).world.custodies id →
      ((custodyMachine options digest).run events).world.isQuarantined id = true ∨
        id ∈ ((custodyMachine options digest).run events).world.acknowledged ∨
        ∃ message ∈ ((custodyMachine options digest).run events).world.messages,
          Message.id message = id ∧ (message.metadata.replyPersisted = true ∨
            message.metadata.ownershipLost = true)) := by
  have counts := along.mono fun _ _ keeps => keeps.1
  have holds := (sound_counting positive counts).world
  have one := oneMessage_run positive along
  refine ⟨?_, ?_, ?_⟩
  · exact callsFor_le one (List.subset_append_left _ _) (holds.generated trivial)
  · rintro earlier middle event later rfl process command given isIssued
    exact generate_unquarantined positive counts isIssued
  · intro id idle many
    exact quarantined_of_claims positive holds one idle many

/-! ## Two runs of one delivery -/

/-- The append is refused, the lease expires, and the delivery is listed and executed again. -/
def executedTwice : List CustodyEvent :=
  executed refusedAppend 14 ++ sampleRun refusedAppend (.others (.expireClaim 1)) 2 ++
    sampleRun refusedAppend .listUnread 9 ++ sampleRun refusedAppend (.completeAndAcknowledge 1) 8

/-- A delivery whose reply is refused is given to the model again with a counter that starts
anew. -/
theorem poison_unbounded :
    ¬ ∀ events id, ((custodyMachine oneAttempt sampleDigest).run events).world.callsFor
      ((custodyMachine oneAttempt sampleDigest).run events).world.generated id ≤
        oneAttempt.maxDeliveryAttempts := by
  intro bounded
  have calls : ((custodyMachine oneAttempt sampleDigest).run executedTwice).world.callsFor
      ((custodyMachine oneAttempt sampleDigest).run executedTwice).world.generated 1 = 2 := by
    decide +kernel
  have atMost := bounded executedTwice 1
  rw [calls] at atMost
  exact absurd atMost (by decide)

/-- A run in which the reply is accepted keeps the account. -/
theorem executed_bounded :
    ((custodyMachine oneAttempt sampleDigest).run (executed acceptedAppend 18)).world.callsFor
      ((custodyMachine oneAttempt sampleDigest).run (executed acceptedAppend 18)).world.generated
        1 ≤ 1 := by
  have along : (custodyMachine oneAttempt sampleDigest).Along
      (fun state event => (keepsCount oneAttempt sampleDigest state event &&
        keepsMessage oneAttempt sampleDigest state event) = true)
      (custodyMachine oneAttempt sampleDigest).initial (executed acceptedAppend 18) := by
    decide +kernel
  refine (poison_bounded oneAttempt sampleDigest (by decide) _ (along.mono ?_)).1 1
  intro state event keeps
  rw [Bool.and_eq_true] at keeps
  exact ⟨keepsCount_of keeps.1, keepsMessage_of keeps.2⟩

end Triangle.MailboxClient
