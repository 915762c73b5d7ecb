import Triangle.MailboxClient.CustodyExecution

/-!
# One execution of a delivery

`completeAndAcknowledge` and what it calls, by the rules of the client. With the other
operations this gives the rules of the whole client.
-/

namespace Triangle.MailboxClient

open Triangle.Std Triangle.Semantics Triangle.Semantics.Turns

section

variable {terms : Terms} {process ref : Nat} {given : Message} {custody : Custody}

/-- The command that executes the delivery of a message. -/
abbrev execution (ref : Nat) : Command :=
  .completeAndAcknowledge ref

/-- A call of an execution that is no work and not noted. -/
theorem Executes.call (executes : Executes process ref given custody) {request : Call}
    {post : Custody → Except Failure (Answer request) → Prop}
    (waits : readsOnly request = false) (idle : isWork request = false)
    (unnoted : issueCustody process (execution ref) custody request = custody)
    (permits : Permits terms process (execution ref) custody request)
    (goesOn : ∀ after answer, Later terms process custody after → Holds terms after →
      post after (.ok answer)) :
    Goes terms process (execution ref) custody (MailboxClient.call request) post :=
  Goes.anyway waits idle unnoted ⟨permits, executes.within request⟩ goesOn

/-! ## The claim -/

theorem tally_noted (tally : Tally terms ref given.id 0 0 custody)
    (work : Work terms process ref given.id custody
      { custody with custodies := ref :: custody.custodies }) :
    Tally terms ref given.id 0 1 { custody with custodies := ref :: custody.custodies } := by
  refine work.tally tally fun message isMessage => ?_
  obtain ⟨accounted, below⟩ := tally.own message isMessage
  refine ⟨⟨accounted.generated, ?_⟩, below⟩
  refine accounted.custodies.imp_right fun held => held.imp_right fun notOwed owes => notOwed ?_
  obtain ⟨unreplied, held, exceeds⟩ := owes
  change _ < (ref :: custody.custodies).count ref at exceeds
  rw [List.count_cons_self] at exceeds
  exact ⟨unreplied, held, by omega⟩

/-- A won claim: owned, and one attempt open. -/
theorem owned_goes (executes : Executes process ref given custody) (holds : Holds terms custody)
    (won : (given.id, given.metadata.claimId) ∈ custody.won)
    (tally : terms.bounded → Tally terms ref given.id 0 0 custody) {leaseExpiresAt : Option String}
    {post : Custody → Except Failure Message → Prop}
    (goesOn : ∀ after message, Claimed process ref given after → Holds terms after →
      (terms.bounded → Tally terms ref given.id 0 1 after) → post after (.ok message)) :
    Goes terms process (execution ref) custody (changeMetadata ref (.owned leaseExpiresAt)) post := by
  obtain ⟨current, isCurrent, evolves⟩ := executes.message
  have isOwn := executes.own isCurrent
  have isWon : (current.id, current.metadata.claimId) ∈ custody.won := by
    rw [evolves.id, evolves.claimId]
    exact won
  have permits : Permits terms process (execution ref) custody
      (.changeMetadata ref (.owned leaseExpiresAt)) := by
    refine ⟨rfl, current, isCurrent, isWon, isOwn, fun isBounded => ?_⟩
    rw [evolves.id]
    exact (tally isBounded).unquarantined
  refine Turned.bind (Turned.request rfl ⟨permits, executes.within _⟩ ?_)
  intro between isLater holdsBetween response meets holdsThen
  -- The claim is noted when the change is issued.
  have work := work_noted holds isCurrent isOwn (.inl rfl) (.inr rfl) (holds.generated · ref)
  rw [evolves.id] at work
  have executesThen := (work.stays executes).later isLater
  have frame := perform_frame holdsBetween rfl (permits.needs isLater) meets
  have stays := frame.later holdsBetween process
  have executesNow := executesThen.later stays
  have tallyNow : terms.bounded → Tally terms ref given.id 0 1
      (performCustody terms.workerId process between
        (.changeMetadata ref (.owned leaseExpiresAt)) response).1 := by
    intro isBounded
    have noted := tally_noted (tally isBounded) work
    exact (noted.later isBounded (work.stays executes) isLater).later isBounded executesThen stays
  have wonNow := stays.won (isLater.won won)
  obtain ⟨before, isBefore, -⟩ := executesThen.message
  have isNow : (between.client.memory.changeMetadata ref (.owned leaseExpiresAt)).messages[ref]? =
      some (before.changed (.owned leaseExpiresAt)) := by
    have isOld : between.client.memory.messages[ref]? = some before := isBefore
    rw [changeMetadata_getElem?, isOld]
    simp
  have claimed : Claimed process ref given (performCustody terms.workerId process between
      (.changeMetadata ref (.owned leaseExpiresAt)) response).1 := by
    refine ⟨executesNow, wonNow, fun message isMessage => ?_⟩
    obtain rfl := Option.mem_unique isNow isMessage
    exact .inl rfl
  have isAnswer : ((custodyTurns terms.options terms.digest).perform process between
      (.changeMetadata ref (.owned leaseExpiresAt)) response).2 =
        some (before.changed (.owned leaseExpiresAt)) := isNow
  dsimp only
  rw [isAnswer]
  exact Turned.pure (goesOn _ _ claimed holdsThen tallyNow)

variable {failure : Failure} {between : Custody} {response : Response} {current : Message}
  {post : Custody → Except Failure Completion → Prop}

section

variable (executes : Executes process ref given custody)
  (tally : terms.bounded → Tally terms ref given.id 0 0 custody)
include executes tally

theorem Fails.of_clear : Fails terms process ref given failure custody :=
  ⟨executes, fun isBounded => ⟨(tally isBounded).mono (Nat.zero_le 1) (Nat.zero_le 1),
    fun _ => tally isBounded⟩⟩

theorem establishClaim_goes {post : Custody → Except Failure Bool → Prop}
    (isWon : ∀ after, Claimed process ref given after → Holds terms after →
      (terms.bounded → Tally terms ref given.id 0 1 after) → post after (.ok true))
    (isDenied : ∀ after, Ends terms process ref given after → post after (.ok false))
    (fails : ∀ after failure, Fails terms process ref given failure after →
      post after (.error failure)) :
    Goes terms process (execution ref) custody (establishClaim ref) post := by
  refine Turned.bind (executes.read fun current _ evolves => ?_)
  refine Turned.bind (executes.call rfl rfl rfl trivial fun kept _ isKept _ => ?_)
  have executesKept := executes.later isKept
  refine Turned.bind (Turned.outcome (claimDelivery_goes (executesKept.within _)
    fun claimed result isClaimed holds won => ?_))
  have isLater := isKept.trans isClaimed
  have executesThen := executes.later isLater
  have tallyThen := fun isBounded => (tally isBounded).later isBounded executes isLater
  cases result with
  | error failure =>
      dsimp only
      split
      · refine Turned.bind (executesThen.call rfl rfl rfl trivial fun last _ more _ => ?_)
        exact Turned.fail (fails last failure (.of_clear (executesThen.later more)
          fun isBounded => (tallyThen isBounded).later isBounded executesThen more))
      · exact Turned.fail (fails claimed failure (.of_clear executesThen tallyThen))
  | ok lease? =>
      cases lease? with
      | none =>
          refine Turned.bind (executesThen.call rfl rfl rfl trivial fun last _ more _ => ?_)
          refine Turned.pure (isDenied last ⟨executesThen.later more, fun isBounded => ?_⟩)
          exact ((tallyThen isBounded).later isBounded executesThen more).settled
      | some leaseExpiresAt =>
          have isWonClaim := won leaseExpiresAt rfl
          rw [evolves.id, evolves.claimId] at isWonClaim
          refine Turned.bind (owned_goes executesThen holds isWonClaim tallyThen
            fun after _ claims holdsAfter counted => ?_)
          exact Turned.pure (isWon after claims holdsAfter counted)

end

/-! ## The acknowledgement -/

theorem IsShown.same {first second : Message} (isShown : IsShown terms custody second)
    (evolves : Evolves first second) : IsShown terms custody first := by
  obtain ⟨seen, member, isDelivery, isRoom, shows⟩ := isShown
  refine ⟨seen, member, isDelivery.trans evolves.id, ?_, ?_⟩
  · rw [← evolves.contextId]
    exact isRoom
  · rw [← evolves.replyMessageId]
    exact shows

/-- An acknowledged delivery has no claim open. -/
theorem Tally.acknowledge (tally : Tally terms ref given.id 0 1 custody)
    (executes : Executes process ref given custody) {id : Nat}
    (isDone : id ∈ custody.acknowledged) (isAbout : id = given.id) : Tally terms ref given.id 0 0 custody where
  unquarantined := tally.unquarantined
  others := tally.others
  own message isMessage := by
    obtain ⟨accounted, below⟩ := tally.own message isMessage
    refine ⟨⟨accounted.generated, .inl ?_⟩, below⟩
    rw [(executes.evolves isMessage).id, ← isAbout]
    exact isDone

theorem Claimed.fails (claimed : Claimed process ref given custody)
    (tally : terms.bounded → Tally terms ref given.id 0 1 custody)
    (isLost : ∃ message, custody.messages[ref]? = some message ∧
      message.metadata.ownershipLost = true) : Fails terms process ref given failure custody :=
  .of_lost claimed.executes tally (Nat.zero_le 1) (Nat.le_refl 1) isLost

theorem acknowledged_of_ok {id : Nat} {claimId : String}
    (isOk : (performCustody terms.workerId process between (.ack id claimId) response).2 =
      .ok ()) :
    id ∈ (performCustody terms.workerId process between (.ack id claimId) response).1.acknowledged
    := by
  unfold performCustody perform at isOk ⊢
  dsimp only at isOk ⊢
  unfold Custody.acknowledged
  cases isFate : (response.choiceFor terms.workerId (.ack id claimId)).fate with
  | answered => exact List.mem_cons_self
  | refused | lost =>
      rw [isFate] at isOk
      cases isOk

/-- What is shown or required stays. -/
theorem acknowledgeOwned_goes {options : Options} (claimed : Claimed process ref given custody)
    (tally : terms.bounded → Tally terms ref given.id 0 1 custody)
    (isShown : given.replyRequired = true → IsShown terms custody given)
    {post : Custody → Except Failure Bool → Prop}
    (ends : ∀ after acknowledged, Ends terms process ref given after →
      post after (.ok acknowledged))
    (fails : ∀ after failure, Fails terms process ref given failure after →
      post after (.error failure)) :
    Goes terms process (execution ref) custody (acknowledgeOwned options ref) post := by
  refine Turned.bind (assertStillOwner_goes claimed (fun current isCurrent isHeld => ?_)
    fun current isCurrent isLost =>
      fails custody _ (claimed.fails tally ⟨current, isCurrent, isLost⟩))
  refine Turned.bind (claimed.executes.read fun read isRead evolves => ?_)
  obtain rfl := Option.mem_unique isCurrent isRead
  have permits : Permits terms process (execution ref) custody
      (.ack current.id current.metadata.claimId) := by
    refine ⟨?_, current, isCurrent, rfl, rfl, isHeld, fun isRequired => ?_⟩
    · rw [evolves.id, evolves.claimId]
      exact claimed.won
    · rw [evolves.replyRequired] at isRequired
      exact (isShown isRequired).later evolves (List.Subset.refl _)
  refine Turned.bind (Turned.outcome
    (Goes.attempt rfl rfl rfl ⟨permits, claimed.executes.within _⟩ ?_))
  intro between response isThen _ meets stays _
  have isLater := isThen.trans stays
  have executesThen := claimed.executes.later isLater
  have tallyThen := fun isBounded => (tally isBounded).later isBounded claimed.executes isLater
  cases isAnswer : (performCustody terms.workerId process between
      (.ack current.id current.metadata.claimId) response).2 with
  | ok _ =>
      have isDone := acknowledged_of_ok isAnswer
      have tallyDone := fun isBounded =>
        (tallyThen isBounded).acknowledge executesThen isDone evolves.id
      refine Turned.bind (executesThen.call rfl rfl rfl trivial fun kept _ more _ => ?_)
      have executesKept := executesThen.later more
      have tallyKept := fun isBounded =>
        (tallyDone isBounded).later isBounded executesThen more
      refine Turned.bind (executesKept.call rfl rfl rfl trivial fun last _ most _ => ?_)
      refine Turned.pure (ends last true ⟨executesKept.later most, fun isBounded => ?_⟩)
      exact ((tallyKept isBounded).later isBounded executesKept most).settled
  | error failure =>
      -- Whether the failure would drop the message.
      have counted : terms.bounded → isUncounted failure = false ∨
          ∃ message, between.messages[ref]? = some message ∧
            message.metadata.replyPersisted = true := by
        intro isBounded
        apply meets.bounded isBounded failure
        unfold failureOf
        rw [isAnswer]
      refine Turned.bind (changeMetadata_goes rfl (fun _ => rfl)
        ⟨trivial, executesThen.within _⟩ (fun after message more _ isMessage => ?_)
        fun after more _ isMissing => ?_)
      · have executesNow := executesThen.later more
        have tallyNow := fun isBounded => (tallyThen isBounded).later isBounded executesThen more
        dsimp only
        split
        · rw [evolves.id]
          refine Turned.bind (quarantine_goes executesNow
            (fun isBounded => (tallyNow isBounded).noneOpen) fun last isEnd => ?_)
          exact Turned.pure (ends last false isEnd)
        · refine Turned.fail (fails after failure (.of_counted executesNow tallyNow
            (Nat.zero_le 1) (Nat.le_refl 1) fun isBounded => ?_))
          refine (counted isBounded).imp_right ?_
          rintro ⟨replied, isReplied, isPersisted⟩
          obtain ⟨later, isLaterMessage, evolvesLater⟩ :=
            (stays.trans more).messages ref replied isReplied
          exact ⟨later, isLaterMessage, evolvesLater.persisted isPersisted⟩
      · obtain ⟨there, isThere, -⟩ := (executesThen.later more).message
        rw [isMissing] at isThere
        cases isThere

/-! ## The reply -/

/-- What the scan of an execution answers: the reply was shown, or no reply to the delivery
was shown before. -/
theorem scan_shows {found : Bool} (executes : Executes process ref given between)
    (evolves : Evolves given current) (isAnswer : (performCustody terms.workerId process between
      (.findExistingReply current.contextId (terms.replyMessageId current)
        current.metadata.delivery.roomSequence) response).2 = .ok found) :
    (found = true → IsShown terms (performCustody terms.workerId process between
      (.findExistingReply current.contextId (terms.replyMessageId current)
        current.metadata.delivery.roomSequence) response).1 given) ∧
    (found = false → response.scanned terms.workerId current.contextId
      (terms.replyMessageId current) current.metadata.delivery.roomSequence = .ok none) := by
  cases isScanned : response.scanned terms.workerId current.contextId
      (terms.replyMessageId current) current.metadata.delivery.roomSequence with
  | error failure =>
      unfold performCustody perform Response.choiceFor Choice.answer Choice.ending at isAnswer
      dsimp only at isAnswer
      rw [isScanned] at isAnswer
      cases isAnswer
  | ok reply? =>
      have isFound : reply?.isSome = found := by
        unfold performCustody perform Response.choiceFor Choice.answer Choice.ending at isAnswer
        dsimp only at isAnswer
        rw [isScanned] at isAnswer
        exact Except.ok.inj isAnswer
      cases reply? with
      | none =>
          refine ⟨fun isTrue => ?_, fun _ => rfl⟩
          rw [← isFound] at isTrue
          cases isTrue
      | some reply =>
          refine ⟨fun _ => ?_, fun isFalse => ?_⟩
          · refine ⟨⟨given.id, current.contextId, reply.event⟩, ?_, rfl, evolves.contextId, ?_⟩
            · unfold performCustody Custody.note
              dsimp only
              rw [isScanned, executes.executing]
              exact List.mem_cons_self
            · rw [← evolves.replyMessageId]
              exact scanned_shows isScanned
          · rw [← isFound] at isFalse
            cases isFalse

/-- A scan that ends without a reply was of a delivery to which none had been shown. -/
theorem unseen_of_scanned (holds : Holds terms between)
    (executes : Executes process ref given between)
    (isCurrent : ∃ later, between.messages[ref]? = some later ∧ Evolves current later)
    (evolves : Evolves given current) (isHonest : terms.honest)
    (keeps : ServerKeeps terms process between response
      (.findExistingReply current.contextId (terms.replyMessageId current)
        current.metadata.delivery.roomSequence))
    (isScanned : response.scanned terms.workerId current.contextId
      (terms.replyMessageId current) current.metadata.delivery.roomSequence = .ok none) :
    ∀ seen ∈ between.seen, seen.deliveryId ≠ given.id := by
  intro seen member isSame
  obtain ⟨delivery, isIssued, isDelivery, isRoom, shows, isLater⟩ := holds.known isHonest seen member
  obtain ⟨later, isThere, more⟩ := isCurrent
  obtain ⟨isLaterIssued, told⟩ := holds.message isThere
  -- The reply that was shown is to this very delivery.
  have isOwn : delivery = later.metadata.delivery := by
    refine holds.distinct delivery isIssued _ isLaterIssued ?_
    exact isDelivery.trans (isSame.trans (evolves.trans more).id.symm)
  have isKey : terms.replyMessageId current = terms.deliveryKey delivery := by
    rw [isOwn, ← told.replyMessageId isHonest, more.replyMessageId]
  have isHere : seen.roomId = current.contextId := by
    rw [isRoom, isOwn, ← told.contextId, more.contextId]
  have isAfter : current.metadata.delivery.roomSequence < sequenceOf seen.event := by
    rw [← more.delivery, ← isOwn]
    exact isLater
  have serves : ServesReply terms.workerId current.contextId (terms.replyMessageId current)
      response.pages (sequenceOf seen.event) := by
    intro toGo afterSequence page isPage
    obtain ⟨history, isOf, shown⟩ := keeps toGo afterSequence page isPage
    refine ⟨history, isOf, shown seen member ?_ isHere ?_⟩
    · rw [isSame]
      exact executes.executing
    · rw [isKey]
      exact shows
  exact scanHistory_complete serves isAfter isScanned

theorem shown_of_appended {text : String} (evolves : Evolves given current)
    (isOk : (performCustody terms.workerId process between
      (.appendReply current text (terms.replyMessageId current)) response).2 = .ok ()) :
    IsShown terms (performCustody terms.workerId process between
      (.appendReply current text (terms.replyMessageId current)) response).1 given := by
  cases isReplied : response.replied terms.workerId current text (terms.replyMessageId current) with
  | error failure =>
      unfold performCustody perform Response.choiceFor Choice.answer Choice.ending at isOk
      dsimp only at isOk
      rw [isReplied] at isOk
      cases isOk
  | ok appended =>
      obtain ⟨reply, sequence⟩ := appended
      refine ⟨⟨current.id, current.contextId, reply.event⟩, ?_, evolves.id, evolves.contextId, ?_⟩
      · unfold performCustody Custody.note
        dsimp only
        rw [isReplied]
        exact List.mem_cons_self
      · rw [← evolves.replyMessageId]
        exact (appendReply_shows isReplied).1

/-- The reply is durable: what was open is closed. -/
theorem replied_goes (claimed : Claimed process ref given custody)
    (tally : terms.bounded → Tally terms ref given.id 1 1 custody)
    (isShown : IsShown terms custody given) {post : Custody → Except Failure Message → Prop}
    (goesOn : ∀ after message, Claimed process ref given after →
      (terms.bounded → Tally terms ref given.id 0 1 after) → IsShown terms after given →
      post after (.ok message)) :
    Goes terms process (execution ref) custody (changeMetadata ref .replyPersisted) post := by
  obtain ⟨current, isCurrent, evolves⟩ := claimed.executes.message
  have permits : Permits terms process (execution ref) custody
      (.changeMetadata ref .replyPersisted) :=
    ⟨current, isCurrent, isShown.later evolves (List.Subset.refl _),
      claimed.executes.own isCurrent⟩
  refine Turned.bind (Turned.request rfl ⟨permits, claimed.executes.within _⟩ ?_)
  intro between isLater holdsBetween response _ _
  have claimedThen := claimed.later isLater
  obtain ⟨before, isBefore, evolvesThen⟩ := claimedThen.executes.message
  have isShownThen := isShown.later evolvesThen isLater.seen
  have work := work_changeMetadata .replyPersisted holdsBetween isBefore
    (claimedThen.executes.own isBefore) (fun isOwned => isOwned) fun _ => isShownThen
  rw [evolvesThen.id] at work
  have isNow : (between.client.memory.changeMetadata ref .replyPersisted).messages[ref]? =
      some (before.changed .replyPersisted) := by
    have isOld : between.client.memory.messages[ref]? = some before := isBefore
    rw [changeMetadata_getElem?, isOld]
    simp
  have tallyNow : terms.bounded → Tally terms ref given.id 0 1 (performCustody terms.workerId
      process between (.changeMetadata ref .replyPersisted) response).1 := by
    intro isBounded
    refine work.tally ((tally isBounded).later isBounded claimed.executes isLater) ?_
    intro message isMessage
    obtain rfl := Option.mem_unique isNow isMessage
    have nothing : ∀ calls openCalls,
        ¬ Owes calls ref (before.changed .replyPersisted) openCalls := nofun
    refine ⟨⟨nothing _ _, .inr (.inr (nothing _ _))⟩, ?_⟩
    exact (((tally isBounded).later isBounded claimed.executes isLater).own before isBefore).2
  have isAnswer : ((custodyTurns terms.options terms.digest).perform process between
      (.changeMetadata ref .replyPersisted) response).2 =
        some (before.changed .replyPersisted) := isNow
  dsimp only
  rw [isAnswer]
  refine Turned.pure (goesOn _ _ (work.claimed claimedThen) tallyNow ?_)
  exact (isShown.later (.refl given) isLater.seen).later (.refl given) (List.Subset.refl _)

/-- A model call that is noted is the open one. -/
theorem tally_generated (tally : Tally terms ref given.id 0 1 custody)
    (work : Work terms process ref given.id custody
      { custody with generated := ref :: custody.generated }) :
    Tally terms ref given.id 1 1 { custody with generated := ref :: custody.generated } := by
  refine work.tally tally fun message isMessage => ?_
  obtain ⟨accounted, below⟩ := tally.own message isMessage
  refine ⟨⟨fun owes => accounted.generated ?_, accounted.custodies⟩, below⟩
  obtain ⟨unreplied, held, exceeds⟩ := owes
  change _ < (ref :: custody.generated).count ref at exceeds
  rw [List.count_cons_self] at exceeds
  exact ⟨unreplied, held, by omega⟩

/-- What a failure under the claim comes to. -/
theorem counted_of_meets {request : Call}
    (meets : Meets terms process (execution ref) between request response)
    (isFailure : failureOf request
      (performCustody terms.workerId process between request response).2 = some failure)
    (isLater : Later terms process between
      (performCustody terms.workerId process between request response).1) :
    terms.bounded → isUncounted failure = false ∨
      ∃ message, (performCustody terms.workerId process between request response).1.messages[ref]? =
        some message ∧ message.metadata.replyPersisted = true := by
  intro isBounded
  refine (meets.bounded isBounded failure isFailure).imp_right ?_
  rintro ⟨message, isMessage, isPersisted⟩
  obtain ⟨later, isThere, evolves⟩ := isLater.messages ref message isMessage
  exact ⟨later, isThere, evolves.persisted isPersisted⟩

theorem aborted_counted : isUncounted requestAborted = false := rfl

/-- The reply that the model makes is appended. -/
theorem generateReply_goes (claimed : Claimed process ref given custody)
    (holds : Holds terms custody) (isCurrent : Evolves given current)
    (isThere : ∃ message, custody.messages[ref]? = some message ∧ Evolves current message ∧
      message.metadata.replyPersisted = false)
    (tally : terms.bounded → Tally terms ref given.id 0 1 custody)
    (unseen : terms.honest → ∀ seen ∈ custody.seen, seen.deliveryId ≠ given.id)
    {post : Custody → Except Failure Bool → Prop}
    (persists : ∀ after, Claimed process ref given after →
      (terms.bounded → Tally terms ref given.id 0 1 after) → IsShown terms after given →
      post after (.ok false))
    (fails : ∀ after failure, Fails terms process ref given failure after →
      post after (.error failure)) :
    Goes terms process (execution ref) custody (do
      assertStillOwnerAndLive ref
      let replyText ← Program.attempt (.generate current) id id
      assertStillOwnerAndLive ref
      Program.attempt (.appendReply current replyText (terms.replyMessageId current)) id id
      let _ ← changeMetadata ref .replyPersisted
      pure false) post := by
  have abortsOf : ∀ later, Executes process ref given later →
      (terms.bounded → Tally terms ref given.id 1 1 later) →
      post later (.error requestAborted) := fun later executes counted =>
    fails later _ (.of_counted executes counted (Nat.le_refl 1) (Nat.le_refl 1)
      fun _ => .inl aborted_counted)
  have losesOf : ∀ later, Executes process ref given later →
      (terms.bounded → Tally terms ref given.id 1 1 later) →
      ∀ message, later.messages[ref]? = some message → message.metadata.ownershipLost = true →
        post later (.error ownershipLost) := fun later executes counted message isMessage isLost =>
    fails later _ (.of_lost executes counted (Nat.le_refl 1) (Nat.le_refl 1)
      ⟨message, isMessage, isLost⟩)
  have wider := fun isBounded => (tally isBounded).mono (Nat.zero_le 1) (Nat.le_refl 1)
  refine Turned.bind (assertStillOwnerAndLive_goes claimed (fun message isMessage isHeld => ?_)
    (losesOf custody claimed.executes wider) (abortsOf custody claimed.executes wider))
  -- The model call, in the turn that has read the claim.
  obtain ⟨same, isSame, evolves, unreplied⟩ := isThere
  obtain rfl := Option.mem_unique isSame isMessage
  have isOwn : custody.executing process = some current.id := by
    rw [isCurrent.id]
    exact claimed.executes.executing
  have fewer : terms.bounded →
      custody.generated.count ref < terms.options.maxDeliveryAttempts := by
    intro isBounded
    obtain ⟨accounted, below⟩ := (tally isBounded).own same isSame
    have within : ¬ same.metadata.processingAttempts + 0 < custody.generated.count ref :=
      fun exceeds => accounted.generated ⟨unreplied, isHeld, exceeds⟩
    omega
  have permits : Permits terms process (execution ref) custody (.generate current) := by
    refine ⟨ref, same, rfl, isSame, evolves, unreplied, isOwn, ?_, fun isBounded => ?_⟩
    · rw [isCurrent.id]
      exact unseen
    · rw [isCurrent.id]
      exact ⟨(tally isBounded).unquarantined, fewer isBounded⟩
  have work := work_noted holds isSame (claimed.executes.own isSame) (.inr rfl) (.inl rfl)
    fun isBounded => by
      rw [List.count_cons_self]
      exact fewer isBounded
  rw [(claimed.executes.evolves isSame).id] at work
  refine Turned.bind (Turned.attempt rfl ⟨permits, claimed.executes.within _⟩ ?_)
  intro between isLater holdsBetween response meets holdsThen
  have stays := (perform_frame holdsBetween rfl (permits.needs isLater) meets).later holdsBetween
    process
  have claimedNow := ((work.claimed claimed).later isLater).later stays
  have tallyNow := fun isBounded =>
    ((tally_generated (tally isBounded) work).later isBounded (work.stays claimed.executes)
      isLater).later isBounded ((work.stays claimed.executes).later isLater) stays
  refine ⟨fun replyText isText => ?_, fun failure isFailure => ?_⟩
  · refine Turned.bind (assertStillOwnerAndLive_goes claimedNow
      (fun owned isOwned isStillHeld => ?_) (losesOf _ claimedNow.executes tallyNow)
      (abortsOf _ claimedNow.executes tallyNow))
    have evolvesNow : Evolves current owned := by
      obtain ⟨later, isThere, more⟩ := isLater.messages ref same isSame
      obtain ⟨last, isLast, most⟩ := stays.messages ref later isThere
      obtain rfl := Option.mem_unique isLast isOwned
      exact (evolves.trans more).trans most
    have isOwnNow : (performCustody terms.workerId process between (.generate current)
        response).1.executing process = some current.id := by
      rw [isCurrent.id]
      exact claimedNow.executes.executing
    have appends : Permits terms process (execution ref)
        (performCustody terms.workerId process between (.generate current) response).1
        (.appendReply current replyText (terms.replyMessageId current)) :=
      ⟨ref, owned, rfl, isOwned, evolvesNow, isStillHeld, rfl, isOwnNow⟩
    refine Turned.bind (Goes.attempt rfl rfl rfl ⟨appends, claimedNow.executes.within _⟩ ?_)
    intro later answered isLaterThen _ meetsThen staysThen _
    have claimedLast := claimedNow.later (isLaterThen.trans staysThen)
    have tallyLast := fun isBounded =>
      (tallyNow isBounded).later isBounded claimedNow.executes (isLaterThen.trans staysThen)
    cases isAnswer : (performCustody terms.workerId process later
        (.appendReply current replyText (terms.replyMessageId current)) answered).2 with
    | ok _ =>
        refine Turned.bind (replied_goes claimedLast tallyLast
          (shown_of_appended isCurrent isAnswer) fun after _ claimedEnd tallyEnd isShown => ?_)
        exact Turned.pure (persists after claimedEnd tallyEnd isShown)
    | error failure =>
        refine fails _ failure (.of_counted claimedLast.executes tallyLast (Nat.le_refl 1)
          (Nat.le_refl 1) (counted_of_meets meetsThen ?_ staysThen))
        rw [isAnswer]
        rfl
  · refine fails _ failure (.of_counted claimedNow.executes tallyNow (Nat.le_refl 1)
      (Nat.le_refl 1) (counted_of_meets meets ?_ stays))
    have isAnswer : (performCustody terms.workerId process between (.generate current)
        response).2 = .error failure := isFailure
    rw [isAnswer]
    rfl

/-- What stays of a message on which nobody else may work. -/
theorem Later.unreplied {after : Custody} (isLater : Later terms process custody after)
    (executes : Executes process ref given custody)
    (isCurrent : custody.messages[ref]? = some current)
    (unreplied : current.metadata.replyPersisted = false) :
    ∃ message, after.messages[ref]? = some message ∧ Evolves current message ∧
      message.metadata.replyPersisted = false := by
  obtain ⟨message, isMessage, evolves⟩ := isLater.messages ref current isCurrent
  refine ⟨message, isMessage, evolves, ?_⟩
  have isAbout := ((executes.later isLater).evolves isMessage).id
  rcases (isLater.spared given.id executes.executing).messages ref message isMessage isAbout with
    ⟨-, -, before, isBefore, steady⟩ | ⟨isNew, -⟩
  · obtain rfl := Option.mem_unique isBefore isCurrent
    exact steady.replied.trans unreplied
  · rw [isNew] at isCurrent
    cases isCurrent

section

variable (claimed : Claimed process ref given custody) (holds : Holds terms custody)
  (tally : terms.bounded → Tally terms ref given.id 0 1 custody)
include claimed holds tally

theorem persistReply_goes {post : Custody → Except Failure Bool → Prop}
    (persists : ∀ after reconciled, Claimed process ref given after →
      (terms.bounded → Tally terms ref given.id 0 1 after) → IsShown terms after given →
      post after (.ok reconciled))
    (fails : ∀ after failure, Fails terms process ref given failure after →
      post after (.error failure)) :
    Goes terms process (execution ref) custody
      (persistReply (terms.options.keyed terms.digest) ref) post := by
  refine Turned.bind (claimed.executes.read fun current isCurrent evolves => ?_)
  dsimp only
  split
  next isReplied =>
    refine Turned.pure (persists custody true claimed tally ?_)
    exact (holds.persisted current (List.mem_of_getElem? isCurrent) isReplied).same evolves
  next isUnreplied =>
    have isKey : (terms.options.keyed terms.digest).replyMessageId current =
        terms.replyMessageId current := rfl
    rw [isKey]
    have permits : Permits terms process (execution ref) custody (.findExistingReply
        current.contextId (terms.replyMessageId current)
        current.metadata.delivery.roomSequence) :=
      ⟨ref, current, rfl, isCurrent, claimed.executes.own isCurrent, rfl, rfl, rfl⟩
    refine Turned.bind (Goes.attempt rfl rfl rfl
      ⟨permits, claimed.executes.within _⟩ ?_)
    intro between response isThen holdsBetween meets stays holdsThen
    have isLater := isThen.trans stays
    have claimedThen := claimed.later isLater
    have tallyThen := fun isBounded => (tally isBounded).later isBounded claimed.executes isLater
    cases isAnswer : (performCustody terms.workerId process between (.findExistingReply
        current.contextId (terms.replyMessageId current)
        current.metadata.delivery.roomSequence) response).2 with
    | error failure =>
        refine fails _ failure (.of_counted claimedThen.executes tallyThen (Nat.zero_le 1)
          (Nat.le_refl 1) (counted_of_meets meets ?_ stays))
        rw [isAnswer]
        rfl
    | ok found =>
        have executesBetween := claimed.executes.later isThen
        obtain ⟨isShown, isUnshown⟩ := scan_shows executesBetween evolves isAnswer
        cases found with
        | true =>
            have wider := fun isBounded =>
              (tallyThen isBounded).mono (Nat.zero_le 1) (Nat.le_refl 1)
            refine Turned.bind (replied_goes claimedThen wider (isShown rfl)
              fun after _ claimedEnd tallyEnd isShownEnd => ?_)
            exact Turned.pure (persists after true claimedEnd tallyEnd isShownEnd)
        | false =>
            have isThere := isLater.unreplied claimed.executes isCurrent
              (eq_false_of_ne_true isUnreplied)
            refine generateReply_goes claimedThen holdsThen evolves isThere tallyThen ?_
              (fun after => persists after false) fails
            intro isHonest
            have scanned := isUnshown rfl
            have unseen := unseen_of_scanned holdsBetween executesBetween
              (isThen.messages ref current isCurrent) evolves isHonest (meets.honest isHonest)
              scanned
            -- The scan that found nothing has shown nothing.
            have same : (performCustody terms.workerId process between (.findExistingReply
                current.contextId (terms.replyMessageId current)
                current.metadata.delivery.roomSequence) response).1.seen = between.seen := by
              unfold performCustody Custody.note
              dsimp only
              rw [scanned]
            rw [same]
            exact unseen

theorem settleDelivery_goes
    (ends : ∀ after completed, Ends terms process ref given after → post after (.ok completed))
    (fails : ∀ after failure, Fails terms process ref given failure after →
      post after (.error failure)) :
    Goes terms process (execution ref) custody
      (settleDelivery (terms.options.keyed terms.digest) ref) post := by
  -- The owner acknowledges, from wherever it has come.
  have acknowledges : ∀ reconciled later, Claimed process ref given later →
      (terms.bounded → Tally terms ref given.id 0 1 later) →
      (given.replyRequired = true → IsShown terms later given) →
      Goes terms process (execution ref) later (do
        assertStillOwnerAndLive ref
        pure (completion reconciled
          (← acknowledgeOwned (terms.options.keyed terms.digest) ref))) post := by
    intro reconciled later claimedThen tallyThen isShown
    refine Turned.bind (assertStillOwnerAndLive_goes claimedThen (fun _ _ _ => ?_)
      (fun message isMessage isLost => ?_) ?_)
    · refine Turned.bind (acknowledgeOwned_goes claimedThen tallyThen isShown
        (fun after acknowledged isEnd => ?_) fails)
      exact Turned.pure (ends after _ isEnd)
    · exact fails later _ (claimedThen.fails tallyThen ⟨message, isMessage, isLost⟩)
    · exact fails later _ (.of_counted claimedThen.executes tallyThen (Nat.zero_le 1)
        (Nat.le_refl 1) fun _ => .inl aborted_counted)
  refine Turned.bind (claimed.executes.read fun current isCurrent evolves => ?_)
  dsimp only
  split
  next =>
    refine Turned.bind (persistReply_goes claimed holds tally
      (fun after reconciled claimedThen tallyThen isShown => ?_) fails)
    exact acknowledges reconciled after claimedThen tallyThen fun _ => isShown
  next isOptional =>
    refine acknowledges false custody claimed tally fun isRequired => ?_
    rw [evolves.replyRequired] at isOptional
    exact absurd isRequired isOptional

end

/-! ## The execution -/

theorem renewing_goes (executes : Executes process ref given custody) (runs : Bool)
    {post : Custody → Except Failure Message → Prop}
    (goesOn : ∀ after message, Later terms process custody after → Holds terms after →
      post after (.ok message)) :
    Goes terms process (execution ref) custody (changeMetadata ref (.renewing runs)) post := by
  refine changeMetadata_goes rfl (fun _ => rfl) ⟨trivial, executes.within _⟩
    (fun after message isLater holds _ => goesOn after message isLater holds)
    fun after isLater _ isMissing => ?_
  obtain ⟨message, isMessage, -⟩ := (executes.later isLater).message
  rw [isMissing] at isMessage
  cases isMessage

theorem withClaimCustody_goes (claimed : Claimed process ref given custody)
    (tally : terms.bounded → Tally terms ref given.id 0 1 custody)
    (ends : ∀ after completed, Ends terms process ref given after → post after (.ok completed))
    (fails : ∀ after failure, Fails terms process ref given failure after →
      post after (.error failure)) :
    Goes terms process (execution ref) custody
      (withClaimCustody ref (settleDelivery (terms.options.keyed terms.digest) ref)) post := by
  refine Turned.bind (renewing_goes claimed.executes true fun begun _ isBegun holds => ?_)
  refine Turned.bind (Turned.outcome (settleDelivery_goes (claimed.later isBegun) holds
    (fun isBounded => (tally isBounded).later isBounded claimed.executes isBegun)
    (fun after completed isEnd => ?_) fun after failure isFailure => ?_))
  · refine Turned.bind (renewing_goes isEnd.executes false fun last _ more _ => ?_)
    exact Turned.ofExcept (ends last completed (isEnd.later more))
  · refine Turned.bind (renewing_goes isFailure.executes false fun last _ more _ => ?_)
    exact Turned.ofExcept (fails last failure (isFailure.later more))

theorem claimAndSettle_goes (executes : Executes process ref given custody)
    (tally : terms.bounded → Tally terms ref given.id 0 0 custody)
    (ends : ∀ after completed, Ends terms process ref given after → post after (.ok completed))
    (fails : ∀ after failure, Fails terms process ref given failure after →
      post after (.error failure)) :
    Goes terms process (execution ref) custody
      (claimAndSettle (terms.options.keyed terms.digest) ref) post := by
  refine Turned.bind (establishClaim_goes executes tally
    (fun after claimed _ counted => ?_) (fun after isEnd => ?_) fails)
  · exact withClaimCustody_goes claimed counted ends fails
  · exact Turned.pure (ends after _ isEnd)

/-- A counted attempt. -/
theorem attempt_goes (executes : Executes process ref given custody)
    (tally : terms.bounded → Tally terms ref given.id 1 1 custody)
    {post : Custody → Except Failure Message → Prop}
    (goesOn : ∀ after message, Executes process ref given after →
      (terms.bounded → NoneOpen after given.id) →
      (terms.bounded →
        message.metadata.processingAttempts < terms.options.maxDeliveryAttempts →
          Settled terms after given.id) → post after (.ok message)) :
    Goes terms process (execution ref) custody (changeMetadata ref .processingAttempt) post := by
  obtain ⟨current, isCurrent, evolves⟩ := executes.message
  have permits : Permits terms process (execution ref) custody
      (.changeMetadata ref .processingAttempt) := ⟨current, isCurrent, executes.own isCurrent⟩
  refine Turned.bind (Turned.request rfl ⟨permits, executes.within _⟩ ?_)
  intro between isLater holdsBetween response _ _
  have executesThen := executes.later isLater
  obtain ⟨before, isBefore, evolvesThen⟩ := executesThen.message
  have work := work_changeMetadata .processingAttempt holdsBetween isBefore
    (executesThen.own isBefore) (fun isOwned => isOwned)
    (holdsBetween.persisted before (List.mem_of_getElem? isBefore))
  rw [evolvesThen.id] at work
  have isNow : (between.client.memory.changeMetadata ref .processingAttempt).messages[ref]? =
      some (before.changed .processingAttempt) := by
    have isOld : between.client.memory.messages[ref]? = some before := isBefore
    rw [changeMetadata_getElem?, isOld]
    simp
  have tallyThen := fun isBounded => (tally isBounded).later isBounded executes isLater
  -- The attempt pays for what was open.
  have paid : ∀ calls, ¬ Owes calls ref before 1 →
      ¬ Owes calls ref (before.changed .processingAttempt) 0 := by
    rintro calls notOwed ⟨unreplied, held, exceeds⟩
    refine notOwed ⟨unreplied, held, ?_⟩
    change before.metadata.processingAttempts + 1 + 0 < calls.count ref at exceeds
    omega
  have accounted : terms.bounded → Accounted (performCustody terms.workerId process between
      (.changeMetadata ref .processingAttempt) response).1 ref
        (before.changed .processingAttempt) 0 0 := by
    intro isBounded
    have open_ := ((tallyThen isBounded).own before isBefore).1
    exact ⟨paid _ open_.generated,
      open_.custodies.imp_right fun held => held.imp_right (paid _)⟩
  have isAnswer : ((custodyTurns terms.options terms.digest).perform process between
      (.changeMetadata ref .processingAttempt) response).2 =
        some (before.changed .processingAttempt) := isNow
  dsimp only
  rw [isAnswer]
  refine Turned.pure (goesOn _ _ (work.stays executesThen) ?_ ?_)
  · intro isBounded place message isMessage isAbout
    by_cases same : place = ref
    · subst same
      obtain rfl := Option.mem_unique isNow isMessage
      exact (accounted isBounded).generated
    · have isOld : between.messages[place]? = some message :=
        (work.others place same).symm.trans isMessage
      exact ((tallyThen isBounded).others place message isOld isAbout same).accounted.generated
  · intro isBounded below
    refine Tally.settled (work.tally (tallyThen isBounded) fun message isMessage => ?_)
    obtain rfl := Option.mem_unique isNow isMessage
    exact ⟨accounted isBounded, below⟩

section

variable (fails : Fails terms process ref given failure custody)
include fails

theorem Fails.ends (isOver : terms.bounded → isUncounted failure = true ∨
      ∃ message, custody.messages[ref]? = some message ∧
        (message.metadata.replyPersisted = true ∨ message.metadata.ownershipLost = true)) :
    Ends terms process ref given custody := by
  refine ⟨fails.executes, fun isBounded => ?_⟩
  have pending := fails.pending isBounded
  rcases isOver isBounded with isDropped | ⟨message, isMessage, isDone⟩
  · exact (pending.counted isDropped).settled
  · refine (pending.tally.close fun other isOther => ?_).settled
    obtain rfl := Option.mem_unique isMessage isOther
    exact isDone

theorem recoverDelivery_goes
    (ends : ∀ after result, Ends terms process ref given after → post after result) :
    Goes terms process (execution ref) custody
      (recoverDelivery (terms.options.keyed terms.digest) ref failure) post := by
  refine Turned.bind (fails.executes.read fun current isCurrent evolves => ?_)
  dsimp only
  split
  next isLost =>
    have isEnd : Ends terms process ref given custody := by
      refine fails.ends fun _ => ?_
      rcases Bool.or_eq_true_iff.mp isLost with isOwnership | isLostNow
      · left
        unfold isUncounted
        rw [isOwnership, Bool.or_true]
      · exact .inr ⟨current, isCurrent, .inr isLostNow⟩
    refine Turned.bind (fails.executes.call rfl rfl rfl trivial fun last _ more _ => ?_)
    exact Turned.pure (ends last _ (isEnd.later more))
  next =>
    split
    next isDenial =>
      have isEnd : Ends terms process ref given custody := by
        refine fails.ends fun _ => .inl ?_
        unfold isUncounted
        rw [isDenial, Bool.true_or]
      refine Turned.bind (fails.executes.call rfl rfl rfl trivial fun last _ more _ => ?_)
      exact Turned.fail (ends last _ (isEnd.later more))
    next =>
      split
      next isReplied =>
        have isEnd : Ends terms process ref given custody :=
          fails.ends fun _ => .inr ⟨current, isCurrent, .inl isReplied⟩
        refine Turned.bind (fails.executes.call rfl rfl rfl trivial fun last _ more _ => ?_)
        exact Turned.fail (ends last _ (isEnd.later more))
      next =>
        refine Turned.bind (attempt_goes fails.executes
          (fun isBounded => (fails.pending isBounded).tally)
          fun after counted executes noneOpen settled => ?_)
        rw [evolves.id]
        dsimp only
        split
        next =>
          refine Turned.bind (quarantine_goes executes noneOpen fun last isEnd => ?_)
          exact Turned.pure (ends last _ isEnd)
        next below =>
          have isEnd : Ends terms process ref given after :=
            ⟨executes, fun isBounded => settled isBounded (Nat.lt_of_not_le below)⟩
          refine Turned.bind (executes.call rfl rfl rfl trivial fun last _ more _ => ?_)
          exact Turned.fail (ends last _ (isEnd.later more))

end

theorem executeDelivery_goes (isEnd : Ends terms process ref given custody)
    (ends : ∀ after result, Ends terms process ref given after → post after result) :
    Goes terms process (execution ref) custody
      (executeDelivery (terms.options.keyed terms.digest) ref) post := by
  refine Turned.bind (isEnd.executes.read fun current isCurrent evolves => ?_)
  refine Turned.bind (Goes.attempt rfl rfl rfl ⟨trivial, isEnd.executes.within _⟩ ?_)
  intro checked response isChecked _ _ stays _
  have isEndThen := isEnd.later (isChecked.trans stays)
  cases isAnswer : (performCustody terms.workerId process checked .ensureActorIdentity
      response).2 with
  | error failure => exact ends _ _ isEndThen
  | ok _ =>
      refine Turned.bind (Goes.idle rfl rfl rfl ⟨trivial, isEndThen.executes.within _⟩ ?_)
      intro between answered isThen _ _ staysThen _
      have isEndNow := isEndThen.later (isThen.trans staysThen)
      dsimp only
      split
      next => exact Turned.pure (ends _ _ isEndNow)
      next isFree =>
        have tally : terms.bounded → Tally terms ref given.id 0 0 (performCustody terms.workerId
            process between (.isQuarantined current.id) answered).1 := by
          intro isBounded
          refine (isEndNow.settled isBounded).tally ?_ fun message isMessage =>
            (isEndNow.executes.evolves isMessage).id
          rw [← evolves.id]
          exact eq_false_of_ne_true isFree
        refine Turned.bind (Turned.outcome (claimAndSettle_goes isEndNow.executes tally
          (fun after completed isOver => ?_) fun after failure fails => ?_))
        · exact Turned.pure (ends after _ isOver)
        · exact recoverDelivery_goes fails ends

theorem completeAndAcknowledge_goes :
    Goes terms process (execution ref) custody
      (completeAndAcknowledge (terms.options.keyed terms.digest) ref) fun _ _ => True := by
  refine Turned.bind (message_goes (fun current isCurrent => ?_) fun _ => trivial)
  have within : Within process (execution ref) custody (.beginDelivery current.id) :=
    fun place isPlace => .inl ⟨current.id, rfl⟩
  refine Turned.bind (Turned.request rfl ⟨trivial, within⟩ ?_)
  intro between isLater holdsBetween response _ holdsThen
  rcases @begin_cases terms process between response current.id with
    ⟨-, isJoined⟩ | ⟨isFree, isBegun, isAfter⟩
  · have isAnswer : ((custodyTurns terms.options terms.digest).perform process between
        (.beginDelivery current.id) response).2 = false := isJoined
    dsimp only
    rw [isAnswer]
    exact Turned.pure trivial
  · have isAnswer : ((custodyTurns terms.options terms.digest).perform process between
        (.beginDelivery current.id) response).2 = true := isBegun
    have isThen : ((custodyTurns terms.options terms.digest).perform process between
        (.beginDelivery current.id) response).1 = _ := isAfter
    dsimp only
    rw [isAnswer, isThen]
    obtain ⟨message, isMessage, evolves⟩ := isLater.messages ref current isCurrent
    have executes : Executes process ref current { between with
        executing := Function.update between.executing process (some current.id)
        client := between.client.withMemory { between.client.memory with
          activeDeliveries :=
            Function.update between.client.memory.activeDeliveries current.id true } } :=
      ⟨⟨message, isMessage, evolves⟩, Function.update_self ..⟩
    have isEnd : Ends terms process ref current _ := ⟨executes, fun isBounded =>
      (holdsBetween.settled isBounded current.id isFree).reassign rfl rfl rfl rfl
        fun isHeld => isHeld⟩
    refine Turned.bind (Turned.outcome (executeDelivery_goes isEnd
      fun after result isOver => ?_))
    have permits : Permits terms process (execution ref) after (.endDelivery current.id) :=
      ⟨isOver.executes.executing, isOver.settled⟩
    refine Turned.bind (Turned.request rfl
      ⟨permits, isOver.executes.within _⟩ fun _ _ _ _ _ _ => ?_)
    refine Turned.bind (Turned.ofExcept ?_)
    cases result with
    | ok completed => exact Turned.pure trivial
    | error failure => trivial

end

/-! ## The rules of the client -/

section

variable {terms : Terms}

/-- Every command goes by the rules. -/
theorem code_goes (process : Nat) (command : Command) (custody : Custody) :
    Goes terms process command custody (code (terms.options.keyed terms.digest) command)
      fun _ _ => True := by
  cases command with
  | listUnread =>
      refine Turned.bind (Turned.imp ?_ (listUnread_goes rfl))
      intro after result _
      cases result with
      | ok messages => exact Turned.pure trivial
      | error failure => trivial
  | completeAndAcknowledge ref =>
      refine Turned.bind (Turned.imp ?_ completeAndAcknowledge_goes)
      intro after result _
      cases result with
      | ok completed => exact Turned.pure trivial
      | error failure => trivial
  | renewLease ref =>
      refine Turned.bind (Turned.imp ?_ renewLease_goes)
      intro after result _
      cases result with
      | ok _ => exact Turned.pure trivial
      | error failure => trivial
  | others action =>
      have elsewhere : Elsewhere (.others action) := nofun
      exact Turned.bind (elsewhere.call rfl rfl trivial fun _ _ _ _ =>
        Turned.pure trivial)

/-- The rules by which the operations of a client take their turns. -/
theorem custody_rules :
    Turns.Rules (custodyTurns terms.options terms.digest) (Allows terms) (Later terms)
      (Holds terms) (Meets terms) where
  refl := Later.refl
  trans _ _ _ _ := Later.trans
  code process command custody _ := code_goes process command custody
  issues := by
    intro process command custody request allows holds
    exact issue_keeps holds allows
  performs := by
    intro process command custody after request response allows isLater holds meets
    have needs := allows.permits.needs isLater
    exact perform_keeps holds needs meets

theorem holds_empty : Holds terms emptyCustody where
  distinct _ isIssued := absurd isIssued List.not_mem_nil
  numbered _ isIssued := absurd isIssued List.not_mem_nil
  told _ isMessage := absurd isMessage List.not_mem_nil
  owned _ isMessage := absurd isMessage List.not_mem_nil
  persisted _ isMessage := absurd isMessage List.not_mem_nil
  known _ _ isSeen := absurd isSeen List.not_mem_nil
  active _ _ isExecuting := nomatch isExecuting
  alone _ _ _ isExecuting := nomatch isExecuting
  counted _ isCounted := by
    rcases isCounted with isGenerated | isClaimed
    · exact absurd isGenerated List.not_mem_nil
    · exact absurd isClaimed List.not_mem_nil
  generated _ _ := Nat.zero_le _
  settled _ _ _ ref message isMessage :=
    absurd (List.mem_of_getElem? isMessage) List.not_mem_nil

end

end Triangle.MailboxClient
