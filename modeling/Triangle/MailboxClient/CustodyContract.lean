import Triangle.MailboxClient.CustodyWork

/-!
# What the operations call

Listing, renewing and the turns of the others, by the rules of the client: each call is
allowed when it is issued.
-/

namespace Triangle.MailboxClient

open Triangle.Std Triangle.Semantics Triangle.Semantics.Turns

/-- The contract of a program of the client in its turns. -/
abbrev Goes (terms : Terms) (process : Nat) (command : Command) {α : Type} (custody : Custody)
    (program : Client α) (post : Custody → Except Failure α → Prop) : Prop :=
  Turned (custodyTurns terms.options terms.digest) (Allows terms) (Later terms) (Holds terms)
    (Meets terms) process command custody program post

section

variable {terms : Terms} {process : Nat} {command : Command} {custody : Custody}

variable {request : Call} {response : Response} {delivery : Delivery}

section

variable {Value : Type} {read : Answer request → Except Failure Value}
  {ends : Custody → Except Failure Value → Prop}
  {post : Custody → Except Failure (Answer request) → Prop}
variable (waits : readsOnly request = false) (isIdle : isWork request = false)
  (unnoted : issueCustody process command custody request = custody)
  (allows : Allows terms process command custody request)
include waits isIdle unnoted allows

/-- A call that is no work: what the process relies on stays, whoever takes turns before. What
is thrown is what the answer says. -/
theorem Goes.attempt
    (goesOn : ∀ between response, Later terms process custody between → Holds terms between →
      Meets terms process command between request response →
      Later terms process between
        (performCustody terms.workerId process between request response).1 →
      Holds terms (performCustody terms.workerId process between request response).1 →
      ends (performCustody terms.workerId process between request response).1
        (read (performCustody terms.workerId process between request response).2)) :
    Goes terms process command custody (Program.attempt request read id) ends := by
  refine Turned.attempt waits allows fun between isLater holds response meets holdsThen => ?_
  have needs := allows.permits.needs isLater
  have same : (custodyTurns terms.options terms.digest).issue process command custody request =
      custody := unnoted
  rw [same] at isLater
  have settles := goesOn between response isLater holds meets
    ((perform_frame holds isIdle needs meets).later holds process) holdsThen
  constructor
  · intro value isValue
    have isRead : read (performCustody terms.workerId process between request response).2 =
        .ok value := isValue
    rw [isRead] at settles
    exact settles
  · intro cause isCause
    have isRead : read (performCustody terms.workerId process between request response).2 =
        .error cause := isCause
    rw [isRead] at settles
    exact settles

/-- The same for a call that returns its answer. -/
theorem Goes.idle
    (goesOn : ∀ between response, Later terms process custody between → Holds terms between →
      Meets terms process command between request response →
      Later terms process between
        (performCustody terms.workerId process between request response).1 →
      Holds terms (performCustody terms.workerId process between request response).1 →
      post (performCustody terms.workerId process between request response).1
        (.ok (performCustody terms.workerId process between request response).2)) :
    Goes terms process command custody (call request) post := by
  change Goes terms process command custody (Program.attempt request Except.ok id) post
  exact Goes.attempt waits isIdle unnoted allows goesOn

/-- The same for a call whose answer is of no concern. -/
theorem Goes.anyway
    (goesOn : ∀ after answer, Later terms process custody after → Holds terms after →
      post after (.ok answer)) : Goes terms process command custody (call request) post := by
  refine Goes.idle waits isIdle unnoted allows ?_
  intro between response isLater _ _ stays holds
  exact goesOn _ _ (isLater.trans stays) holds

end

/-- A message that is read is the one that is there. -/
theorem message_goes {ref : Nat} {post : Custody → Except Failure Message → Prop}
    (isThere : ∀ message, custody.messages[ref]? = some message → post custody (.ok message))
    (isMissing : custody.messages[ref]? = none → post custody (.error missingMetadata)) :
    Goes terms process command custody (message ref) post := by
  refine Turned.bind (Turned.read rfl fun response => ?_)
  dsimp only
  cases isMessage : custody.messages[ref]? with
  | some message =>
      have isAnswer : ((custodyTurns terms.options terms.digest).perform process custody
          (.message ref) response).2 = some message := isMessage
      rw [isAnswer]
      exact Turned.pure (isThere message isMessage)
  | none =>
      have isAnswer : ((custodyTurns terms.options terms.digest).perform process custody
          (.message ref) response).2 = none := isMessage
      rw [isAnswer]
      exact Turned.fail (isMissing isMessage)

theorem readSignal_goes {post : Custody → Except Failure Bool → Prop}
    (goesOn : ∀ aborted, post custody (.ok aborted)) :
    Goes terms process command custody (call .signalAborted) post :=
  Turned.read rfl fun _ => goesOn _

/-- An answered claim was won with its claim id. -/
theorem won_of_claimed {between : Custody} {id : Nat} {claimId : String}
    {leaseExpiresAt : Option String}
    (isWon : (performCustody terms.workerId process between (.claim id claimId) response).2 =
      .ok leaseExpiresAt) :
    (id, claimId) ∈
      (performCustody terms.workerId process between (.claim id claimId) response).1.won := by
  unfold performCustody at isWon ⊢
  dsimp only at isWon ⊢
  rw [isWon]
  exact List.mem_cons_self

/-- A claim that is won is in the history. -/
theorem claimDelivery_goes {id : Nat} {claimId : String}
    {post : Custody → Except Failure (Option (Option String)) → Prop}
    (within : Within process command custody (.claim id claimId))
    (goesOn : ∀ after result, Later terms process custody after → Holds terms after →
      (∀ leaseExpiresAt, result = .ok (some leaseExpiresAt) → (id, claimId) ∈ after.won) →
      post after result) :
    Goes terms process command custody (claimDelivery id claimId) post := by
  refine Turned.bind (Goes.idle rfl rfl ?_ ⟨trivial, within⟩ ?_)
  · cases command <;> rfl
  intro between response isLater _ _ stays holds
  have isLaterThen := isLater.trans stays
  dsimp only
  cases isAnswer : (performCustody terms.workerId process between (.claim id claimId) response).2
    with
  | ok leaseExpiresAt =>
      refine Turned.pure (goesOn _ _ isLaterThen holds fun other _ => ?_)
      exact won_of_claimed isAnswer
  | error failure =>
      dsimp only
      split
      · exact Turned.pure (goesOn _ _ isLaterThen holds nofun)
      · exact Turned.fail (goesOn _ _ isLaterThen holds nofun)

/-- A change of metadata that is no work and not noted. -/
theorem changeMetadata_goes {ref : Nat} {change : MetadataChange}
    {post : Custody → Except Failure Message → Prop}
    (idle : change.works = false)
    (unnoted : ∀ later, issueCustody process command later (.changeMetadata ref change) = later)
    (allows : Allows terms process command custody (.changeMetadata ref change))
    (isThere : ∀ after message, Later terms process custody after → Holds terms after →
      after.messages[ref]? = some message → post after (.ok message))
    (isMissing : ∀ after, Later terms process custody after → Holds terms after →
      after.messages[ref]? = none → post after (.error missingMetadata)) :
    Goes terms process command custody (changeMetadata ref change) post := by
  refine Turned.bind (Goes.idle rfl idle (unnoted custody) allows ?_)
  intro between response isLater _ _ stays holds
  have isLaterThen := isLater.trans stays
  dsimp only
  cases isMessage : (performCustody terms.workerId process between (.changeMetadata ref change)
      response).2 with
  | some message => exact Turned.pure (isThere _ message isLaterThen holds isMessage)
  | none => exact Turned.fail (isMissing _ isLaterThen holds isMessage)

/-! ## Operations that execute no delivery -/

/-- The command is no execution. -/
def Elsewhere (command : Command) : Prop :=
  ∀ ref, command ≠ .completeAndAcknowledge ref

section

variable (elsewhere : Elsewhere command)
include elsewhere

theorem Elsewhere.within (request : Call) : Within process command custody request :=
  fun ref isExecution => absurd isExecution (elsewhere ref)

theorem Elsewhere.unnoted (custody : Custody) (request : Call) :
    issueCustody process command custody request = custody := by
  cases command with
  | completeAndAcknowledge ref => exact absurd rfl (elsewhere ref)
  | _ => rfl

/-- A call of an operation that executes no delivery. -/
theorem Elsewhere.call {post : Custody → Except Failure (Answer request) → Prop}
    (waits : readsOnly request = false) (idle : isWork request = false)
    (permits : Permits terms process command custody request)
    (goesOn : ∀ after answer, Later terms process custody after → Holds terms after →
      post after (.ok answer)) :
    Goes terms process command custody (MailboxClient.call request) post :=
  Goes.anyway waits idle (elsewhere.unnoted custody request)
    ⟨permits, elsewhere.within request⟩ goesOn

end

/-- An event that is refused as no message was passed over. -/
theorem skipped_of_refused {between : Custody} {failure : Failure}
    (isRefused : (performCustody terms.workerId process between (.listRoomEvent delivery)
      response).2 = .error failure) (skips : isSkipEventError failure = true) :
    delivery.id ∈ (performCustody terms.workerId process between (.listRoomEvent delivery)
      response).1.skipped := by
  unfold performCustody at isRefused ⊢
  dsimp only at isRefused ⊢
  rw [isRefused]
  unfold Custody.note
  dsimp only
  rw [if_pos skips]
  exact List.mem_cons_self

/-- The event of a delivery, where one was listed. -/
theorem told_of_listed {between : Custody} {event : RoomEvent}
    (isListed : (performCustody terms.workerId process between (.listRoomEvent delivery)
      response).2 = .ok event) : response.told terms.workerId delivery = .ok event := by
  cases isTold : response.told terms.workerId delivery with
  | ok told =>
      unfold performCustody perform Response.choiceFor Choice.answer Choice.ending at isListed
      dsimp only at isListed
      rw [isTold] at isListed
      exact congrArg Except.ok (Except.ok.inj isListed)
  | error failure =>
      unfold performCustody perform Response.choiceFor Choice.answer Choice.ending at isListed
      dsimp only at isListed
      rw [isTold] at isListed
      cases isListed

/-- The event that a delivery is told with is the one that it names. -/
theorem validateRoomEvent_names {event : Json} {workerId : String} {told : RoomEvent}
    (isTold : validateRoomEvent event delivery workerId = .ok told) :
    told.id = delivery.eventId ∧ told.roomId = delivery.roomId := by
  unfold validateRoomEvent at isTold
  rw [require_bind_ok] at isTold
  obtain ⟨-, isTold⟩ := isTold
  obtain ⟨roomId, -, isTold⟩ := (bind_ok _).mp isTold
  obtain ⟨sequence, -, isTold⟩ := (bind_ok _).mp isTold
  obtain ⟨sender, -, isTold⟩ := (bind_ok _).mp isTold
  obtain ⟨eventId, -, isTold⟩ := (bind_ok _).mp isTold
  obtain ⟨type, -, isTold⟩ := (bind_ok _).mp isTold
  rw [require_bind_ok, require_bind_ok, require_bind_ok] at isTold
  obtain ⟨⟨isRoom, -, isEvent⟩, -, -, isTold⟩ := isTold
  split at isTold
  next body isBody =>
    -- The event that is built, from whatever text it has.
    have built : ∀ text : Except Failure String,
        (text >>= fun text => do
          let senderId ← boundedId (some (.str sender)) "senderId" isAgentId
          pure { id := eventId, roomId, senderId, text,
                 replyRequired := parseReplyRequired (body.lookup "replyRequired") }) = .ok told →
          told.id = delivery.eventId ∧ told.roomId = delivery.roomId := by
      intro text isBuilt
      obtain ⟨text, -, isBuilt⟩ := (bind_ok _).mp isBuilt
      obtain ⟨senderId, -, isBuilt⟩ := (bind_ok _).mp isBuilt
      rw [pure_ok] at isBuilt
      subst isBuilt
      exact ⟨isEvent, isRoom⟩
    dsimp only at isTold
    split at isTold
    · split at isTold
      · exact built _ isTold
      · exact built _ isTold
    · exact built _ isTold
  next => cases isTold

theorem told_names {workerId : String} {told : RoomEvent}
    (isTold : response.told workerId delivery = .ok told) :
    told.id = delivery.eventId ∧ told.roomId = delivery.roomId := by
  unfold Response.told listRoomEvent at isTold
  obtain ⟨page, -, isTold⟩ := (bind_ok _).mp isTold
  obtain ⟨items, -, isTold⟩ := (bind_ok _).mp isTold
  split at isTold
  · cases isTold
  · rw [require_bind_ok] at isTold
    exact validateRoomEvent_names isTold.2

theorem discardEvent_goes {id : Nat} (isSkipped : id ∈ custody.skipped) :
    Goes terms process .listUnread custody (discardEvent id) fun after _ =>
      Later terms process custody after := by
  have elsewhere : Elsewhere .listUnread := nofun
  -- The end of the block, from wherever it is reached.
  have settle : ∀ later, Later terms process custody later →
      Goes terms process .listUnread later (do
        call (.dropDiscardClaim id)
        call (.advanceListCursor id)) fun after _ => Later terms process custody after := by
    intro later isLater
    refine Turned.bind (elsewhere.call rfl rfl trivial fun last _ more _ => ?_)
    exact elsewhere.call rfl rfl trivial fun _ _ most _ => (isLater.trans more).trans most
  refine Turned.bind (elsewhere.call rfl rfl trivial fun begun claimId isBegun _ => ?_)
  refine Turned.bind (claimDelivery_goes (elsewhere.within _) fun claimed result isClaimed _
    isWon => ?_)
  have isLater := isBegun.trans isClaimed
  cases result with
  | error failure => exact isLater
  | ok lease? =>
      cases lease? with
      | none => exact settle claimed isLater
      | some lease =>
          refine Turned.bind (Goes.attempt rfl rfl rfl ⟨?_, elsewhere.within _⟩ ?_)
          · exact ⟨isWon lease rfl, isLater.skipped isSkipped⟩
          intro between response isThen _ _ stays _
          have isLaterThen := (isLater.trans isThen).trans stays
          cases isAnswer : (performCustody terms.workerId process between (.ack id claimId)
              response).2 with
          | ok _ => exact settle _ isLaterThen
          | error failure => exact isLaterThen

section

variable {options : Options}

section

variable (isWorker : options.recipientId = terms.workerId)
include isWorker

theorem listDelivery_goes {delivery : Delivery} (isIssued : delivery ∈ custody.issued) :
    Goes terms process .listUnread custody (listDelivery options delivery) fun after _ =>
      Later terms process custody after := by
  have elsewhere : Elsewhere .listUnread := nofun
  unfold listDelivery
  split
  · exact Turned.fail (.refl process custody)
  refine Turned.bind (elsewhere.call rfl rfl trivial fun later isHeld isLater _ => ?_)
  dsimp only
  split
  · refine Turned.bind (elsewhere.call rfl rfl trivial fun last _ more _ => ?_)
    exact Turned.pure (isLater.trans more)
  refine Turned.bind (Goes.idle rfl rfl rfl ⟨trivial, elsewhere.within _⟩ ?_)
  intro between response isThen _ meets stays holds
  have isLaterThen := (isLater.trans isThen).trans stays
  dsimp only
  cases isAnswer : (performCustody terms.workerId process between (.listRoomEvent delivery)
      response).2 with
  | ok event =>
      have isTold := told_of_listed isAnswer
      obtain ⟨isEvent, isRoom⟩ := told_names isTold
      refine Turned.bind (elsewhere.call rfl rfl trivial fun cleared _ isCleared _ => ?_)
      refine Turned.bind (elsewhere.call rfl rfl ?_ fun made ref isMade _ => ?_)
      · exact ⟨isWorker, (isLaterThen.trans isCleared).issued isIssued, isEvent, isRoom,
          fun isHonest => meets.honest isHonest event isTold⟩
      · exact Turned.pure ((isLaterThen.trans isCleared).trans isMade)
  | error failure =>
      dsimp only
      split
      next skips =>
        refine Turned.bind (Turned.imp ?_
          (discardEvent_goes (skipped_of_refused isAnswer skips)))
        intro after result more
        cases result with
        | ok _ => exact Turned.pure (isLaterThen.trans more)
        | error other => exact isLaterThen.trans more
      next =>
        refine Turned.bind (elsewhere.call rfl rfl trivial fun counted failures isCounted
          holdsThen => ?_)
        have isLaterNow := isLaterThen.trans isCounted
        dsimp only
        split
        · refine Turned.bind (Turned.request rfl ⟨.inl rfl, elsewhere.within _⟩ ?_)
          intro last isLast holdsLast response meetsLast holdsEnd
          have ends : Later terms process last
              (performCustody terms.workerId process last
                (.quarantineDelivery delivery.id failure.message none) response).1 := by
            refine later_same ?_ rfl rfl rfl rfl rfl rfl rfl rfl fun isBounded taken isTaken => ?_
            · exact Memory.advanceListCursor_messages _ _
            · have notTaken : taken ≠ delivery.id := by
                rintro rfl
                have isIdle := meetsLast.bounded isBounded _ _ _ rfl
                rw [holdsLast.active process _ isTaken] at isIdle
                cases isIdle
              change (last.client.memory.quarantineDelivery delivery.id failure.message none
                _).isQuarantined taken = _
              rw [isQuarantined_quarantine, decide_eq_false notTaken, Bool.false_or]
              rfl
          exact Turned.pure ((isLaterNow.trans isLast).trans ends)
        · exact Turned.fail isLaterNow

theorem listPage_goes {page : List Delivery}
    (areIssued : ∀ delivery ∈ page, delivery ∈ custody.issued) :
    Goes terms process .listUnread custody (listPage options page) fun after _ =>
      Later terms process custody after := by
  induction page generalizing custody with
  | nil => exact Turned.pure (.refl process custody)
  | cons delivery rest ih =>
      have isIssued := areIssued delivery List.mem_cons_self
      refine Turned.bind (Turned.imp ?_ (listDelivery_goes isWorker isIssued))
      intro later listed isLater
      cases listed with
      | error failure => exact isLater
      | ok listed =>
          have areStill : ∀ other ∈ rest, other ∈ later.issued := fun other member =>
            isLater.issued (areIssued other (List.mem_cons_of_mem _ member))
          refine Turned.bind (Turned.imp ?_ (ih areStill))
          intro last others more
          cases others with
          | error failure => exact isLater.trans more
          | ok others => exact Turned.pure (isLater.trans more)

theorem listUnread_goes :
    Goes terms process .listUnread custody (listUnread options) fun _ _ => True := by
  have elsewhere : Elsewhere .listUnread := nofun
  refine Turned.bind (Goes.attempt rfl rfl rfl ⟨trivial, elsewhere.within _⟩ ?_)
  intro checked response _ _ _ _ _
  cases isAnswer : (performCustody terms.workerId process checked .ensureActorIdentity
      response).2 with
  | error failure => trivial
  | ok _ =>
      refine Turned.bind (elsewhere.call rfl rfl trivial fun read retries _ _ => ?_)
      dsimp only
      split
      · refine Turned.bind (elsewhere.call rfl rfl trivial fun begun after _ _ => ?_)
        refine Turned.bind (Goes.attempt rfl rfl rfl ⟨trivial, elsewhere.within _⟩ ?_)
        intro between response isThen holds _ stays _
        cases isPage : (performCustody terms.workerId process between
            (.listMailbox after options.pageLimit) response).2 with
        | error failure => trivial
        | ok page =>
            refine Turned.imp (fun _ _ _ => trivial) (listPage_goes isWorker ?_)
            intro delivery member
            have isListed : page = between.client.server.list after options.pageLimit := by
              unfold performCustody perform Choice.answer at isPage
              dsimp only at isPage
              split at isPage
              · exact (Except.ok.inj isPage).symm
              · cases isPage
            rw [isListed] at member
            exact (List.mem_filter.mp (List.mem_of_mem_take member)).1
      · exact Turned.pure trivial

end

end

theorem renewLease_goes {ref : Nat} :
    Goes terms process (.renewLease ref) custody (renewLease ref) fun _ _ => True := by
  have elsewhere : Elsewhere (.renewLease ref) := nofun
  refine Turned.bind (message_goes (fun current isMessage => ?_) fun _ => trivial)
  dsimp only
  split
  · refine Turned.bind (Turned.outcome (claimDelivery_goes (elsewhere.within _)
      fun claimed result _ _ _ => ?_))
    dsimp only
    split
    · refine Turned.bind (changeMetadata_goes rfl (fun later => elsewhere.unnoted later _)
        ⟨trivial, elsewhere.within _⟩ (fun _ _ _ _ _ => ?_) fun _ _ _ _ => trivial)
      exact Turned.pure trivial
    · refine Turned.bind (changeMetadata_goes rfl (fun later => elsewhere.unnoted later _)
        ⟨trivial, elsewhere.within _⟩ (fun _ _ _ _ _ => ?_) fun _ _ _ _ => trivial)
      exact Turned.pure trivial
  · exact Turned.pure trivial

end

end Triangle.MailboxClient
