import Triangle.MailboxClient.CustodyContract

/-!
# What an execution calls

The execution of one delivery by the rules of the client. Under its claim it knows the
claim won; it acknowledges after it has read that the claim is not lost and, where a reply
is required, after the reply was shown. `Tally` is the account of its attempts: one model
call and one claim are open at most until the attempt is counted.
-/

namespace Triangle.MailboxClient

open Triangle.Std Triangle.Semantics

/-- The process executes the delivery of its message. -/
structure Executes (process ref : Nat) (given : Message) (custody : Custody) : Prop where
  message : ∃ message, custody.messages[ref]? = some message ∧ Evolves given message
  executing : custody.executing process = some given.id

/-- The account of an execution: its own message has open calls, every other message of
the delivery is clear. -/
structure Tally (terms : Terms) (ref id openCalls openClaims : Nat) (custody : Custody) : Prop where
  unquarantined : custody.isQuarantined id = false
  others : ∀ (place : Nat) (message : Message), custody.messages[place]? = some message →
    message.id = id → place ≠ ref → Clear terms custody place message
  own : ∀ message, custody.messages[ref]? = some message →
    Accounted custody ref message openCalls openClaims ∧
      message.metadata.processingAttempts < terms.options.maxDeliveryAttempts

/-- A claim that the process won for its message. -/
structure Claimed (process ref : Nat) (given : Message) (custody : Custody) : Prop where
  executes : Executes process ref given custody
  won : (given.id, given.metadata.claimId) ∈ custody.won
  held : ∀ message, custody.messages[ref]? = some message →
    message.metadata.owned = true ∨ message.metadata.ownershipLost = true

section

variable {terms : Terms} {process ref id openCalls openClaims : Nat} {given : Message}
  {custody after : Custody}

/-! ## What stays -/

theorem Executes.later (executes : Executes process ref given custody)
    (isLater : Later terms process custody after) : Executes process ref given after where
  message := by
    obtain ⟨message, isMessage, evolves⟩ := executes.message
    obtain ⟨later, isThere, more⟩ := isLater.messages ref message isMessage
    exact ⟨later, isThere, evolves.trans more⟩
  executing := isLater.executing.trans executes.executing

variable {message : Message} {post : Custody → Except Failure Unit → Prop}

theorem Executes.evolves (executes : Executes process ref given custody)
    (isMessage : custody.messages[ref]? = some message) : Evolves given message := by
  obtain ⟨other, isOther, evolves⟩ := executes.message
  obtain rfl := Option.mem_unique isOther isMessage
  exact evolves

theorem Executes.own (executes : Executes process ref given custody)
    (isMessage : custody.messages[ref]? = some message) :
    custody.executing process = some message.id := by
  rw [(executes.evolves isMessage).id]
  exact executes.executing

theorem Executes.within (executes : Executes process ref given custody) (request : Call) :
    Within process (.completeAndAcknowledge ref) custody request := by
  intro place isPlace
  obtain rfl := Command.completeAndAcknowledge.inj isPlace
  obtain ⟨message, isMessage, -⟩ := executes.message
  exact .inr ⟨message, isMessage, executes.own isMessage⟩

theorem Claimed.later (claimed : Claimed process ref given custody)
    (isLater : Later terms process custody after) : Claimed process ref given after where
  executes := claimed.executes.later isLater
  won := isLater.won claimed.won
  held message isMessage := by
    obtain ⟨before, isBefore, -⟩ := claimed.executes.message
    obtain ⟨later, isThere, evolves⟩ := isLater.messages ref before isBefore
    obtain rfl := Option.mem_unique isThere isMessage
    rcases claimed.held before isBefore with isOwned | isLost
    · exact evolves.owned isOwned
    · exact .inr (evolves.lost isLost)

theorem Fresh.accounted (fresh : Fresh custody ref message) :
    Accounted custody ref message openCalls openClaims where
  generated := by
    rintro ⟨-, -, owes⟩
    rw [fresh.generated] at owes
    omega
  custodies := by
    refine .inr (.inr ?_)
    rintro ⟨-, -, owes⟩
    rw [fresh.custodies] at owes
    omega

theorem Tally.later (isBounded : terms.bounded)
    (tally : Tally terms ref given.id openCalls openClaims custody)
    (executes : Executes process ref given custody) (isLater : Later terms process custody after) :
    Tally terms ref given.id openCalls openClaims after := by
  have spared := isLater.spared given.id executes.executing
  have quarantined := spared.quarantined isBounded
  refine ⟨?_, ?_, ?_⟩
  · rw [quarantined]
    exact tally.unquarantined
  · intro place message isMessage isAbout different
    exact spared.clear isBounded isLater.acknowledged isMessage isAbout
      fun before isBefore isAboutToo => tally.others place before isBefore isAboutToo different
  · intro message isMessage
    have isAbout := ((executes.later isLater).evolves isMessage).id
    rcases spared.messages ref message isMessage isAbout with
      ⟨sameCalls, sameClaims, before, isBefore, steady⟩ | ⟨-, fresh⟩
    · obtain ⟨accounted, below⟩ := tally.own before isBefore
      rw [← (executes.evolves isBefore).id] at quarantined
      refine ⟨accounted.steady isLater.acknowledged quarantined sameCalls sameClaims steady, ?_⟩
      rw [steady.attempts]
      exact below
    · refine ⟨fresh.accounted, ?_⟩
      rw [fresh.attempts]
      exact terms.positive isBounded

/-- A settled delivery has nothing open. -/
theorem Settled.tally (settled : Settled terms custody id)
    (unquarantined : custody.isQuarantined id = false)
    (isAbout : ∀ message, custody.messages[ref]? = some message → message.id = id) :
    Tally terms ref id 0 0 custody where
  unquarantined := unquarantined
  others place message isMessage isAboutToo _ := settled place message isMessage isAboutToo
  own message isMessage := by
    have clear := settled ref message isMessage (isAbout message isMessage)
    refine ⟨clear.accounted, clear.attempts.resolve_right ?_⟩
    rw [isAbout message isMessage, unquarantined]
    exact nofun

theorem Tally.settled (tally : Tally terms ref id 0 0 custody) : Settled terms custody id := by
  intro place message isMessage isAbout
  by_cases same : place = ref
  · subst same
    obtain ⟨accounted, below⟩ := tally.own message isMessage
    exact ⟨accounted, .inl below⟩
  · exact tally.others place message isMessage isAbout same

theorem Owes.mono {calls : List Nat} {fewer more : Nat} (isMore : fewer ≤ more)
    (owes : Owes calls ref message more) : Owes calls ref message fewer := by
  obtain ⟨unreplied, held, exceeds⟩ := owes
  exact ⟨unreplied, held, by omega⟩

variable {moreCalls moreClaims : Nat} {failure : Failure} {command : Command}

theorem Tally.mono (calls : openCalls ≤ moreCalls) (claims : openClaims ≤ moreClaims)
    (tally : Tally terms ref id openCalls openClaims custody) :
    Tally terms ref id moreCalls moreClaims custody where
  unquarantined := tally.unquarantined
  others := tally.others
  own message isMessage := by
    obtain ⟨accounted, below⟩ := tally.own message isMessage
    refine ⟨⟨fun owes => accounted.generated (owes.mono calls), ?_⟩, below⟩
    exact accounted.custodies.imp_right fun held => held.imp_right fun notOwed owes =>
      notOwed (owes.mono claims)

/-- Nothing is open of a message that has its reply or has lost its claim. -/
theorem Tally.close (tally : Tally terms ref id openCalls openClaims custody)
    (isOver : ∀ message, custody.messages[ref]? = some message →
      message.metadata.replyPersisted = true ∨ message.metadata.ownershipLost = true) :
    Tally terms ref id 0 0 custody where
  unquarantined := tally.unquarantined
  others := tally.others
  own message isMessage := by
    have nothing : ∀ calls, ¬ Owes calls ref message 0 := by
      rintro calls ⟨unreplied, held, -⟩
      rcases isOver message isMessage with isReplied | isLost
      · rw [isReplied] at unreplied
        cases unreplied
      · rw [isLost] at held
        cases held
    exact ⟨⟨nothing _, .inr (.inr (nothing _))⟩, (tally.own message isMessage).2⟩

/-- What an execution leaves when it fails: an uncounted failure leaves nothing open. -/
structure Pending (terms : Terms) (ref id : Nat) (failure : Failure) (custody : Custody) : Prop where
  tally : Tally terms ref id 1 1 custody
  counted : isUncounted failure = true → Tally terms ref id 0 0 custody

/-- An execution that ends. -/
structure Ends (terms : Terms) (process ref : Nat) (given : Message) (custody : Custody) : Prop where
  executes : Executes process ref given custody
  settled : terms.bounded → Settled terms custody given.id

theorem Ends.later (ends : Ends terms process ref given custody)
    (isLater : Later terms process custody after) : Ends terms process ref given after where
  executes := ends.executes.later isLater
  settled isBounded :=
    isLater.settled isBounded ends.executes.executing (ends.settled isBounded)

/-- An execution that fails. -/
structure Fails (terms : Terms) (process ref : Nat) (given : Message) (failure : Failure)
    (custody : Custody) : Prop where
  executes : Executes process ref given custody
  pending : terms.bounded → Pending terms ref given.id failure custody

theorem Fails.later (fails : Fails terms process ref given failure custody)
    (isLater : Later terms process custody after) :
    Fails terms process ref given failure after where
  executes := fails.executes.later isLater
  pending isBounded := by
    have pending := fails.pending isBounded
    exact ⟨pending.tally.later isBounded fails.executes isLater,
      fun isDropped => (pending.counted isDropped).later isBounded fails.executes isLater⟩

/-! ## Reading -/

/-- The message of an execution is there. -/
theorem Executes.read (executes : Executes process ref given custody)
    {post : Custody → Except Failure Message → Prop}
    (goesOn : ∀ current, custody.messages[ref]? = some current → Evolves given current →
      post custody (.ok current)) :
    Goes terms process command custody (MailboxClient.message ref) post := by
  refine message_goes (fun current isMessage => goesOn current isMessage
    (executes.evolves isMessage)) fun isMissing => ?_
  obtain ⟨message, isMessage, -⟩ := executes.message
  rw [isMissing] at isMessage
  cases isMessage

section

variable (claimed : Claimed process ref given custody)
  (isHeld : ∀ message, custody.messages[ref]? = some message → message.metadata.ownershipLost = false → post custody (.ok ()))
  (isLost : ∀ message, custody.messages[ref]? = some message → message.metadata.ownershipLost = true → post custody (.error ownershipLost))
include claimed isHeld isLost

/-- The owner goes on only while the claim is not lost. -/
theorem assertStillOwner_goes : Goes terms process command custody (assertStillOwner ref) post := by
  refine Turns.Turned.bind (claimed.executes.read fun current isMessage _ => ?_)
  refine Turns.Turned.ensure (fun owns => isHeld current isMessage owns.1) fun ownsNot => ?_
  apply isLost current isMessage
  rcases claimed.held current isMessage with isOwned | isLost
  · cases lost : current.metadata.ownershipLost with
    | true => rfl
    | false => exact absurd ⟨lost, isOwned⟩ ownsNot
  · exact isLost

theorem assertStillOwnerAndLive_goes (isAborted : post custody (.error requestAborted)) :
    Goes terms process command custody (assertStillOwnerAndLive ref) post := by
  refine Turns.Turned.bind (assertStillOwner_goes claimed (fun message isMessage held => ?_) isLost)
  refine Turns.Turned.bind (readSignal_goes fun aborted => ?_)
  exact Turns.Turned.ensure (fun _ => isHeld message isMessage held) fun _ => isAborted

end

section

variable (executes : Executes process ref given custody)
  (tally : terms.bounded → Tally terms ref given.id openCalls openClaims custody)
  (calls : openCalls ≤ 1) (claims : openClaims ≤ 1)
include executes tally calls claims

/-- A failure of the owner itself: it has lost its claim, or the failure is counted. -/
theorem Fails.of_lost (isLost : ∃ message, custody.messages[ref]? = some message ∧
      message.metadata.ownershipLost = true) : Fails terms process ref given failure custody := by
  refine ⟨executes, fun isBounded => ⟨(tally isBounded).mono calls claims, fun _ => ?_⟩⟩
  apply (tally isBounded).close
  obtain ⟨message, isMessage, lost⟩ := isLost
  intro other isOther
  obtain rfl := Option.mem_unique isMessage isOther
  exact .inr lost

theorem Fails.of_counted (counted : terms.bounded → isUncounted failure = false ∨
      ∃ message, custody.messages[ref]? = some message ∧ message.metadata.replyPersisted = true) :
    Fails terms process ref given failure custody := by
  refine ⟨executes, fun isBounded => ⟨(tally isBounded).mono calls claims, fun isDropped => ?_⟩⟩
  rcases counted isBounded with isCounted | ⟨message, isMessage, isReplied⟩
  · rw [isCounted] at isDropped
    cases isDropped
  · apply (tally isBounded).close
    intro other isOther
    obtain rfl := Option.mem_unique isMessage isOther
    exact .inl isReplied

end

/-! ## Its own work -/

/-- Work on the message leaves the process executing. -/
theorem Work.stays (work : Work terms process ref given.id custody after)
    (executes : Executes process ref given custody) : Executes process ref given after where
  message := by
    obtain ⟨before, message, isBefore, isMessage, -, evolves, -⟩ := work.worked
    exact ⟨message, isMessage, (executes.evolves isBefore).trans evolves⟩
  executing := by
    rw [work.executing]
    exact executes.executing

theorem Work.claimed (work : Work terms process ref given.id custody after)
    (claimed : Claimed process ref given custody) : Claimed process ref given after where
  executes := work.stays claimed.executes
  won := by
    rw [work.won]
    exact claimed.won
  held message isMessage := by
    obtain ⟨before, worked, isBefore, isWorked, -, evolves, -⟩ := work.worked
    obtain rfl := Option.mem_unique isWorked isMessage
    rcases claimed.held before isBefore with isOwned | isLost
    · exact evolves.owned isOwned
    · exact .inr (evolves.lost isLost)

/-- Work on the message leaves the others of the delivery clear. -/
theorem Work.tally (work : Work terms process ref id custody after)
    (tally : Tally terms ref id openCalls openClaims custody)
    (own : ∀ message, after.messages[ref]? = some message →
      Accounted after ref message moreCalls moreClaims ∧
        message.metadata.processingAttempts < terms.options.maxDeliveryAttempts) :
    Tally terms ref id moreCalls moreClaims after where
  unquarantined := by
    rw [work.quarantined]
    exact tally.unquarantined
  others place message isMessage isAbout different := by
    rw [work.others place different] at isMessage
    obtain ⟨accounted, attempts⟩ := tally.others place message isMessage isAbout different
    refine ⟨?_, by rw [work.quarantined]; exact attempts⟩
    refine accounted.steady ?_ ?_ (work.generated place different) (work.custodies place different)
      (.refl message)
    · rw [work.acknowledged]
      exact List.Subset.refl _
    · rw [work.quarantined]
  own := own

/-- No model call of a delivery is open. -/
def NoneOpen (custody : Custody) (id : Nat) : Prop :=
  ∀ (place : Nat) (message : Message), custody.messages[place]? = some message →
    message.id = id → ¬ Owes custody.generated place message 0

theorem Tally.noneOpen (tally : Tally terms ref id 0 openClaims custody) : NoneOpen custody id := by
  intro place message isMessage isAbout
  by_cases same : place = ref
  · subst same
    exact (tally.own message isMessage).1.generated
  · exact (tally.others place message isMessage isAbout same).accounted.generated

theorem NoneOpen.later (noneOpen : NoneOpen custody given.id)
    (executes : Executes process ref given custody) (isLater : Later terms process custody after) :
    NoneOpen after given.id := by
  intro place message isMessage isAbout owes
  rcases (isLater.spared given.id executes.executing).messages place message isMessage isAbout with
    ⟨sameCalls, -, before, isBefore, steady⟩ | ⟨-, fresh⟩
  · have isAboutToo : before.id = given.id := by rw [← isAbout, steady.evolves.id]
    exact noneOpen place before isBefore isAboutToo (owes.before steady sameCalls)
  · have accounted : Accounted after place message 0 0 := fresh.accounted
    exact accounted.generated owes

/-- A quarantine settles a delivery without open model calls. -/
theorem quarantine_goes (executes : Executes process ref given custody)
    (noneOpen : terms.bounded → NoneOpen custody given.id) {reason : String} {message : Option Nat}
    (goesOn : ∀ after, Ends terms process ref given after → post after (.ok ())) :
    Goes terms process (.completeAndAcknowledge ref) custody
      (call (.quarantineDelivery given.id reason message)) post := by
  refine Turns.Turned.request rfl ⟨.inr executes.executing, executes.within _⟩ ?_
  intro between isLater _ response _ _
  have executesThen := executes.later isLater
  have noneThen := fun isBounded => (noneOpen isBounded).later executes isLater
  have sameMessages : (between.client.memory.quarantineDelivery given.id reason message
      response.choice.now).messages = between.client.memory.messages :=
    Memory.advanceListCursor_messages _ _
  apply goesOn
  refine ⟨⟨?_, executesThen.executing⟩, fun isBounded place other isOther isAbout => ?_⟩
  · obtain ⟨current, isCurrent, evolves⟩ := executesThen.message
    refine ⟨current, ?_, evolves⟩
    change (between.client.memory.quarantineDelivery given.id reason message
      response.choice.now).messages[ref]? = _
    rw [sameMessages]
    exact isCurrent
  · have isHeld : (between.client.memory.quarantineDelivery given.id reason message
        response.choice.now).isQuarantined other.id = true := by
      rw [isQuarantined_quarantine, isAbout, decide_eq_true rfl]
      rfl
    have isBefore : between.messages[place]? = some other := by
      change (between.client.memory.quarantineDelivery given.id reason message
        response.choice.now).messages[place]? = _ at isOther
      rw [sameMessages] at isOther
      exact isOther
    exact ⟨⟨noneThen isBounded place other isBefore isAbout, .inr (.inl isHeld)⟩, .inr isHeld⟩

end

end Triangle.MailboxClient
