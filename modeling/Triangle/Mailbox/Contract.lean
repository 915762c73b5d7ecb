import Triangle.Mailbox.Host

/-!
# What a command may do

The contract of every command of the service. A process knows the record it
read or wrote last and the reply that the server reported as committed; `Allowed`
says which calls that entitles it to. In particular a new version of the record
is one of three changes of the version it knows.
-/

namespace Triangle.Mailbox

open Triangle.Std Triangle.Semantics

/-- The record a process has seen, and the reply it knows to be committed. -/
structure Knowledge where
  seen : Option OpenTransaction
  committed : Option (RoomId × String × EventId)

/-- What a process knows before its first call. -/
def Knowledge.nothing : Knowledge :=
  ⟨none, none⟩

/-- The three changes of a record. -/
inductive Advance (committed : Option (RoomId × String × EventId)) :
    OpenTransaction → OpenTransaction → Prop
  | claimed {record : OpenTransaction} (wasPrepared : record.state = .prepared) :
      Advance committed record { record with state := .claimed }
  | replied {record : OpenTransaction} {eventID : EventId} {resolution : ReplyResolution}
      (wasClaimed : record.state = .claimed)
      (isCommitted : committed = some (record.roomID, record.replyIdempotencyKey, eventID)) :
      Advance committed record
        { record with
          state := .replied, replyEventID := some eventID, replyResolution := resolution }
  | failed {record : OpenTransaction} {reason : String} :
      Advance committed record
        { record with
          failureCount := min (record.failureCount + 1) 10000, lastFailureReason := some reason }

section

variable (sha256Hex : String → String) (instanceID : ClientInstanceId)

/-- A well-formed record of the instance. -/
def Genuine (record : OpenTransaction) : Prop :=
  record.WellFormed sha256Hex ∧ record.instanceID = instanceID

/-- The calls that a process is entitled to. -/
def Allowed (known : Knowledge) : Call → Prop
  | .prepare transaction =>
      Genuine sha256Hex instanceID transaction ∧ transaction.state = .prepared
  | .replace transaction =>
      Genuine sha256Hex instanceID transaction ∧
        ∃ record, known.seen = some record ∧ Advance known.committed record transaction
  | .clear expected => ∃ record, known.seen = some record ∧ expected = some record.deliveryID
  | .abandon => ∃ record, known.seen = some record
  | .claim deliveryID claimID => ∃ record, known.seen = some record ∧
      deliveryID = record.deliveryID ∧ claimID = record.claimID
  | .sendReply roomID key _ _ => ∃ record, known.seen = some record ∧
      roomID = record.roomID ∧ key = record.replyIdempotencyKey
  | .acknowledge deliveryID claimID => ∃ record, known.seen = some record ∧
      deliveryID = record.deliveryID ∧ claimID = record.claimID ∧
      (record.replyRequired = true → record.state = .replied)
  | _ => True

/-- A record that a read returns is genuine. -/
def Possible : (request : Call) → Answer request → Prop
  | .readOpen, .ok (some record) => Genuine sha256Hex instanceID record
  | _, _ => True

end

/-- The reply that an event id from the server stands for. -/
def committedReply (roomID : RoomId) (key : String) (raw : Option String) :
    Option (RoomId × String × EventId) :=
  (raw.bind EventId.ofRaw).map fun eventID => (roomID, key, eventID)

/-- What an answer teaches. -/
def learn (known : Knowledge) : (request : Call) → Answer request → Knowledge
  | .readOpen, .ok (some record) => { known with seen := some record }
  | .prepare transaction, .ok _ => { known with seen := some transaction }
  | .replace transaction, .ok _ => { known with seen := some transaction }
  | .sendReply roomID key _ _, .ok (.created raw) =>
      { known with committed := committedReply roomID key (some raw) }
  | .lookupReplyEventID roomID key, .ok raw =>
      { known with committed := committedReply roomID key raw }
  | _, _ => known

section

variable {sha256Hex : String → String} {instanceID : ClientInstanceId}
  {record next : OpenTransaction}

/-- A prepared or claimed record carries no reply yet. -/
theorem OpenTransaction.WellFormed.unreplied (wellFormed : record.WellFormed sha256Hex)
    (open_ : record.state ≠ .replied) :
    record.replyEventID = none ∧ record.replyResolution = .none := by
  have consistent := wellFormed.2.2
  unfold OpenTransaction.hasConsistentReply at consistent
  split at consistent <;> simp_all

/-- A replied record carries its reply. -/
theorem OpenTransaction.WellFormed.replied (wellFormed : record.WellFormed sha256Hex)
    (isReplied : record.state = .replied) : ∃ eventID, record.replyEventID = some eventID := by
  have consistent := wellFormed.2.2
  unfold OpenTransaction.hasConsistentReply at consistent
  split at consistent <;> simp_all

/-- The identifiers of a changed record stay those of its delivery. -/
theorem OpenTransaction.make_genuine {draft : OpenTransaction}
    (made : OpenTransaction.make sha256Hex draft = .ok next)
    (genuine : Genuine sha256Hex instanceID record)
    (sameInstance : draft.instanceID = record.instanceID)
    (sameDelivery : draft.deliveryID = record.deliveryID)
    (sameClaim : draft.claimID = record.claimID)
    (sameKey : draft.replyIdempotencyKey = record.replyIdempotencyKey)
    (consistent : draft.hasConsistentReply = true) :
    next = draft ∧ Genuine sha256Hex instanceID next := by
  obtain ⟨isNext, fields, derived⟩ := OpenTransaction.make_ok made
  obtain ⟨⟨-, ids, -⟩, isInstance⟩ := genuine
  have claimIs : draft.claimID = claimId sha256Hex draft.instanceID draft.deliveryID := by
    rw [sameClaim, sameInstance, sameDelivery, ids.1]
  have keyIs : draft.replyIdempotencyKey =
      Mailbox.replyIdempotencyKey sha256Hex draft.instanceID draft.deliveryID := by
    rw [sameKey, sameInstance, sameDelivery, ids.2.1]
  have isDraft : next = draft := by
    rw [isNext, ← claimIs, ← keyIs]
  subst isDraft
  exact ⟨rfl, ⟨fields, derived, consistent⟩, sameInstance.trans isInstance⟩

theorem OpenTransaction.markingClaimed_ok (genuine : Genuine sha256Hex instanceID record)
    (marked : record.markingClaimed sha256Hex = .ok next) :
    record.state = .prepared ∧ next = { record with state := .claimed } ∧
      Genuine sha256Hex instanceID next := by
  unfold OpenTransaction.markingClaimed at marked
  rw [require_bind_ok] at marked
  obtain ⟨wasPrepared, made⟩ := marked
  obtain ⟨noEvent, noResolution⟩ := genuine.1.unreplied (by rw [wasPrepared]; decide)
  obtain ⟨isNext, nextGenuine⟩ :=
    OpenTransaction.make_genuine made genuine rfl rfl rfl rfl rfl
  refine ⟨wasPrepared, ?_, nextGenuine⟩
  rw [isNext, ← noEvent, ← noResolution]

variable {eventID : EventId} {resolution : ReplyResolution} {problem : ServiceError}

section

variable (genuine : Genuine sha256Hex instanceID record)
include genuine

theorem OpenTransaction.markingReplied_ok
    (marked : record.markingReplied sha256Hex eventID resolution = .ok next) :
    next = { record with
      state := .replied, replyEventID := some eventID, replyResolution := resolution } ∧
      Genuine sha256Hex instanceID next := by
  unfold OpenTransaction.markingReplied at marked
  rw [require_bind_ok, require_bind_ok] at marked
  obtain ⟨-, resolved, made⟩ := marked
  refine OpenTransaction.make_genuine made genuine rfl rfl rfl rfl ?_
  rcases resolved with rfl | rfl <;> rfl

theorem OpenTransaction.recordingFailure_ok {reason : String}
    (marked : record.recordingFailure sha256Hex reason = .ok next) :
    next = { record with
      failureCount := min (record.failureCount + 1) 10000, lastFailureReason := some reason } ∧
      Genuine sha256Hex instanceID next := by
  unfold OpenTransaction.recordingFailure at marked
  rw [require_bind_ok] at marked
  exact OpenTransaction.make_genuine marked.2 genuine rfl rfl rfl rfl genuine.1.2.2

end

/-! ## The programs -/

variable (sha256Hex instanceID) in
/-- The contract of a program of the service. -/
abbrev ServiceMeets {α : Type} (known : Knowledge) (program : Service α)
    (post : Knowledge → Except ServiceError α → Prop) : Prop :=
  Program.Meets (Allowed sha256Hex instanceID) (Possible sha256Hex instanceID) learn known program
    post

variable (sha256Hex instanceID) in
/-- What a program that returns a record leaves known: that record. -/
def ReturnsSeen (known : Knowledge) (result : Except ServiceError OpenTransaction) : Prop :=
  ∀ record, result = .ok record →
    known.seen = some record ∧ Genuine sha256Hex instanceID record

theorem returnsSeen_error {known : Knowledge} :
    ReturnsSeen sha256Hex instanceID known (.error problem) :=
  fun _ isOk => (nomatch isOk)

variable {known : Knowledge} {α β : Type}

variable {post : Knowledge → Except ServiceError β → Prop}

/-- A computation without calls. -/
theorem meets_checked {result : Except StoreError α} {rest : α → Service β}
    (returns : ∀ value, result = .ok value →
      ServiceMeets sha256Hex instanceID known (rest value) post)
    (throws : ∀ problem, post known (.error problem)) :
    ServiceMeets sha256Hex instanceID known (checked result >>= rest) post := by
  cases result with
  | ok value => exact returns value rfl
  | error problem => exact throws (.store problem)

/-- The read that each command starts with. -/
theorem meets_readOpen {rest : Option OpenTransaction → Service β}
    (absent : ServiceMeets sha256Hex instanceID known (rest none) post)
    (found : ∀ record, Genuine sha256Hex instanceID record →
      ServiceMeets sha256Hex instanceID { known with seen := some record } (rest (some record)) post)
    (throws : ∀ problem, post known (.error problem)) :
    ServiceMeets sha256Hex instanceID known (readOpen >>= rest) post := by
  refine Program.Meets.attempt trivial ?_ ?_
  · rintro answer value possible rfl
    cases value with
    | none => exact absent
    | some record => exact found record possible
  · rintro answer cause - rfl
    exact throws _

theorem meets_listQuarantined {rest : List Quarantined → Service β} (returns : ∀ quarantined,
      ServiceMeets sha256Hex instanceID known (rest quarantined) post)
    (throws : ∀ problem, post known (.error problem)) :
    ServiceMeets sha256Hex instanceID known (listQuarantined >>= rest) post := by
  refine Program.Meets.attempt trivial ?_ ?_
  · rintro answer value - rfl
    exact returns value
  · rintro answer cause - rfl
    exact throws _

theorem meets_listPendingCandidates {rest : List DeliveryCandidate → Service β}
    (returns : ∀ candidates, ServiceMeets sha256Hex instanceID known (rest candidates) post)
    (throws : ∀ problem, post known (.error problem)) :
    ServiceMeets sha256Hex instanceID known (listPendingCandidates >>= rest) post := by
  refine Program.Meets.attempt trivial ?_ ?_
  · rintro answer value - rfl
    exact returns value
  · rintro answer cause - rfl
    exact throws _

/-- A write of a changed record; the process has then seen what it wrote. -/
theorem meets_replace (genuine : Genuine sha256Hex instanceID next)
    (seen : known.seen = some record) (advance : Advance known.committed record next)
    {rest : Unit → Service β}
    (returns : ServiceMeets sha256Hex instanceID { known with seen := some next } (rest ()) post)
    (throws : ∀ problem, post known (.error problem)) :
    ServiceMeets sha256Hex instanceID known (replace next >>= rest) post := by
  refine Program.Meets.attempt ⟨genuine, record, seen, advance⟩ ?_ ?_
  · rintro answer value - rfl
    exact returns
  · rintro answer cause - rfl
    exact throws _

theorem finishClaim_meets (seen : known.seen = some record)
    (genuine : Genuine sha256Hex instanceID record) :
    ServiceMeets sha256Hex instanceID known (finishClaim sha256Hex record)
      (ReturnsSeen sha256Hex instanceID) := by
  unfold finishClaim
  refine Program.Meets.attempt ⟨record, seen, rfl, rfl⟩ ?_ (fun _ _ _ _ => returnsSeen_error)
  rintro answer result - rfl
  refine Program.Meets.ensure (fun _ => ?_) returnsSeen_error
  refine Program.Meets.ensure (fun _ => ?_) returnsSeen_error
  refine meets_checked (fun next marked => ?_) (fun _ => returnsSeen_error)
  obtain ⟨wasPrepared, rfl, nextGenuine⟩ := OpenTransaction.markingClaimed_ok genuine marked
  refine meets_replace nextGenuine seen (.claimed wasPrepared) ?_ (fun _ => returnsSeen_error)
  rintro returned isReturned
  cases isReturned
  exact ⟨rfl, nextGenuine⟩

variable (protocolOwnership : TransactionProtocol)

theorem claim_meets (deliveryID : Int) (roomID : RoomId) (inboundEventID : Option EventId)
    (inboundRoomSequence : Option Int) (replyRequired : Bool) :
    ServiceMeets sha256Hex instanceID known
      (claim sha256Hex instanceID protocolOwnership deliveryID roomID inboundEventID
        inboundRoomSequence replyRequired)
      (ReturnsSeen sha256Hex instanceID) := by
  unfold claim
  refine meets_readOpen ?_ ?_ (fun _ => returnsSeen_error)
  · -- No record is open: prepare one and finish the claim.
    unfold startClaim
    refine ⟨trivial, fun createdAt _ => ?_⟩
    refine meets_checked (fun prepared made => ?_) (fun _ => returnsSeen_error)
    obtain ⟨isPrepared, fields, derived⟩ := OpenTransaction.make_ok made
    have genuine : Genuine sha256Hex instanceID prepared := by
      refine ⟨⟨fields, derived, ?_⟩, ?_⟩ <;> rw [isPrepared]
      rfl
    refine Program.Meets.attempt ⟨genuine, by rw [isPrepared]⟩ ?_
      (fun _ _ _ _ => returnsSeen_error)
    rintro answer value - rfl
    exact finishClaim_meets rfl genuine
  · intro existing genuine
    unfold resumeClaim
    refine Program.Meets.ensure (fun _ => ?_) returnsSeen_error
    refine Program.Meets.ensure (fun _ => ?_) returnsSeen_error
    refine Program.Meets.ensure (fun _ => ?_) returnsSeen_error
    split
    · exact finishClaim_meets rfl genuine
    · rintro returned isReturned
      cases isReturned
      exact ⟨rfl, genuine⟩

/-- The postcondition that asks for nothing. -/
abbrev Anything {γ : Type} : Knowledge → Except ServiceError γ → Prop :=
  fun _ _ => True

theorem settleReceiptOnly_meets (seen : known.seen = some record) (quarantined : List Quarantined)
    (remaining : List DeliveryCandidate) :
    ServiceMeets sha256Hex instanceID known (settleReceiptOnly record quarantined remaining)
      Anything := by
  unfold settleReceiptOnly
  refine Program.Meets.ensure (fun receiptOnly => ?_) trivial
  have unanswered : record.replyRequired = true → record.state = .replied := by
    rw [receiptOnly.2]
    exact nofun
  refine Program.Meets.attempt ⟨record, seen, rfl, rfl, unanswered⟩ ?_ (fun _ _ _ _ => trivial)
  rintro answer value - rfl
  refine Program.Meets.attempt ⟨record, seen, rfl⟩ ?_ (fun _ _ _ _ => trivial)
  rintro answer value - rfl
  exact meets_checked (fun _ _ => trivial) (fun _ => trivial)

theorem claimNext_meets (allowedRoomID : Option RoomId) :
    ServiceMeets sha256Hex instanceID known
      (claimNext sha256Hex instanceID protocolOwnership allowedRoomID) Anything := by
  unfold claimNext
  refine meets_readOpen ?_ (fun current _ => ?_) (fun _ => trivial)
  · unfold claimPending
    refine meets_listPendingCandidates (fun candidates => ?_) (fun _ => trivial)
    refine meets_listQuarantined (fun quarantined => ?_) (fun _ => trivial)
    refine meets_checked (fun evaluation _ => ?_) (fun _ => trivial)
    cases nextActionable evaluation.actionable with
    | none => trivial
    | some candidate =>
        refine Program.Meets.bind ((claim_meets _ _ _ _ _ _).imp ?_)
        intro known result returned
        cases result with
        | error problem => trivial
        | ok claimed =>
            dsimp only
            split
            · exact settleReceiptOnly_meets (returned claimed rfl).1 _ _
            · exact meets_checked (fun _ _ => trivial) (fun _ => trivial)
  · unfold resumeNext
    refine Program.Meets.ensure (fun _ => ?_) trivial
    refine Program.Meets.ensure (fun _ => ?_) trivial
    refine Program.Meets.ensure (fun _ => ?_) trivial
    refine meets_listQuarantined (fun quarantined => ?_) (fun _ => trivial)
    split
    · exact settleReceiptOnly_meets rfl _ _
    · exact meets_checked (fun _ _ => trivial) (fun _ => trivial)

theorem drainReceipts_meets :
    ServiceMeets sha256Hex instanceID known
      (drainReceipts sha256Hex instanceID protocolOwnership) Anything := by
  unfold drainReceipts
  refine meets_readOpen ?_ (fun current _ => ?_) (fun _ => trivial)
  · unfold drainPending
    refine meets_listPendingCandidates (fun candidates => ?_) (fun _ => trivial)
    refine meets_listQuarantined (fun quarantined => ?_) (fun _ => trivial)
    refine meets_checked (fun evaluation _ => ?_) (fun _ => trivial)
    cases nextActionable evaluation.actionable with
    | none => trivial
    | some candidate =>
        dsimp only
        split
        · trivial
        · refine Program.Meets.bind ((claim_meets _ _ _ _ _ _).imp ?_)
          intro known result returned
          cases result with
          | error problem => trivial
          | ok claimed => exact settleReceiptOnly_meets (returned claimed rfl).1 _ _
  · unfold drainOpen
    refine Program.Meets.ensure (fun _ => ?_) trivial
    refine Program.Meets.ensure (fun _ => ?_) trivial
    refine meets_listQuarantined (fun quarantined => ?_) (fun _ => trivial)
    split
    · exact settleReceiptOnly_meets rfl _ _
    · exact meets_checked (fun _ _ => trivial) (fun _ => trivial)

variable (sha256Hex instanceID) in
/-- What a committed reply leaves: the record with that reply. -/
def ReturnsReplied (record : OpenTransaction) (known : Knowledge)
    (result : Except ServiceError OpenTransaction) : Prop :=
  ∀ next, result = .ok next → known.seen = some record ∧
    Advance known.committed record next ∧ Genuine sha256Hex instanceID next

theorem returnsReplied_error {known : Knowledge} :
    ReturnsReplied sha256Hex instanceID record known (.error problem) :=
  fun _ isOk => (nomatch isOk)

/-- A change to replied, with the reply that an event id from the server stands for. -/
theorem markingReplied_returns (seen : known.seen = some record)
    (genuine : Genuine sha256Hex instanceID record) (wasClaimed : record.state = .claimed)
    (isCommitted : known.committed = some (record.roomID, record.replyIdempotencyKey, eventID)) :
    ServiceMeets sha256Hex instanceID known
      (checked (record.markingReplied sha256Hex eventID resolution))
      (ReturnsReplied sha256Hex instanceID record) := by
  intro next isNext
  cases marked : record.markingReplied sha256Hex eventID resolution with
  | error problem =>
      rw [marked] at isNext
      cases isNext
  | ok replied =>
      rw [marked] at isNext
      cases isNext
      obtain ⟨rfl, nextGenuine⟩ := OpenTransaction.markingReplied_ok genuine marked
      exact ⟨seen, .replied wasClaimed isCommitted, nextGenuine⟩

theorem commitReply_meets (seen : known.seen = some record)
    (genuine : Genuine sha256Hex instanceID record) (wasClaimed : record.state = .claimed)
    (text : String) (inReplyToEventID : Option EventId) :
    ServiceMeets sha256Hex instanceID known (commitReply sha256Hex record text inReplyToEventID)
      (ReturnsReplied sha256Hex instanceID record) := by
  unfold commitReply
  refine Program.Meets.attempt ⟨record, seen, rfl, rfl⟩ ?_ (fun _ _ _ _ => returnsReplied_error)
  rintro answer result - rfl
  cases result with
  | created raw =>
      dsimp only
      cases isEvent : EventId.ofRaw raw with
      | none => exact returnsReplied_error
      | some eventID =>
          refine markingReplied_returns seen genuine wasClaimed ?_
          simp [learn, committedReply, isEvent]
  | idempotencyConflict =>
      refine Program.Meets.attempt trivial ?_ (fun _ _ _ _ => returnsReplied_error)
      rintro answer recovered - rfl
      cases isEvent : recovered.bind EventId.ofRaw with
      | none => exact returnsReplied_error
      | some eventID =>
          refine markingReplied_returns seen genuine wasClaimed ?_
          simp [learn, committedReply, isEvent]

theorem reply_meets (roomID : RoomId) (text : String) (inReplyToEventID : Option EventId) :
    ServiceMeets sha256Hex instanceID known
      (reply sha256Hex protocolOwnership roomID text inReplyToEventID) Anything := by
  unfold reply
  refine Program.Meets.ensure (fun _ => ?_) trivial
  refine meets_readOpen trivial (fun current genuine => ?_) (fun _ => trivial)
  refine Program.Meets.ensure (fun _ => ?_) trivial
  refine Program.Meets.ensure (fun _ => ?_) trivial
  refine Program.Meets.ensure (fun _ => ?_) trivial
  refine Program.Meets.ensure (fun _ => ?_) trivial
  split
  · trivial
  · refine Program.Meets.ensure (fun wasClaimed => ?_) trivial
    refine Program.Meets.bind ((commitReply_meets rfl genuine wasClaimed _ _).imp ?_)
    intro known result returned
    cases result with
    | error problem => trivial
    | ok next =>
        obtain ⟨seen, advance, nextGenuine⟩ := returned next rfl
        exact meets_replace nextGenuine seen advance trivial (fun _ => trivial)

theorem acknowledge_meets (deliveryID : Option Int) :
    ServiceMeets sha256Hex instanceID known (acknowledge protocolOwnership deliveryID)
      Anything := by
  unfold acknowledge
  refine meets_readOpen trivial (fun current genuine => ?_) (fun _ => trivial)
  refine Program.Meets.ensure (fun _ => ?_) trivial
  refine Program.Meets.ensure (fun _ => ?_) trivial
  refine Program.Meets.ensure (fun replied => ?_) trivial
  refine Program.Meets.attempt ⟨current, rfl, rfl, rfl, fun _ => replied.1⟩ ?_
    (fun _ _ _ _ => trivial)
  rintro answer value - rfl
  exact ⟨⟨current, rfl, rfl⟩, fun answer _ => by cases answer <;> trivial⟩

theorem recordFailure_meets (reason : String) :
    ServiceMeets sha256Hex instanceID known (recordFailure sha256Hex protocolOwnership reason)
      Anything := by
  unfold recordFailure
  refine meets_readOpen trivial (fun current genuine => ?_) (fun _ => trivial)
  refine Program.Meets.ensure (fun _ => ?_) trivial
  refine meets_checked (fun next marked => ?_) (fun _ => trivial)
  obtain ⟨rfl, nextGenuine⟩ := OpenTransaction.recordingFailure_ok genuine marked
  refine meets_replace nextGenuine rfl .failed ?_ (fun _ => trivial)
  exact Program.Meets.ensure (fun _ => trivial) trivial

theorem abandon_meets :
    ServiceMeets sha256Hex instanceID known (abandon protocolOwnership) Anything := by
  unfold abandon
  refine meets_readOpen trivial (fun current genuine => ?_) (fun _ => trivial)
  refine Program.Meets.ensure (fun _ => ?_) trivial
  exact ⟨⟨current, rfl⟩, fun answer _ => by cases answer <;> trivial⟩

/-- A wrapped program meets what asks for nothing when the program does. -/
theorem meets_wrapped {program : Service α} {wrap : α → β}
    (meets : ServiceMeets sha256Hex instanceID known program Anything) :
    ServiceMeets sha256Hex instanceID known (program >>= fun value => pure (wrap value))
      Anything := by
  refine Program.Meets.bind (meets.imp ?_)
  intro _ result _
  cases result <;> trivial

/-- Every command keeps to the contract. -/
theorem code_meets (command : Command) :
    ServiceMeets sha256Hex instanceID known (code sha256Hex instanceID command) Anything := by
  cases command with
  | claimNext protocolOwnership allowedRoomID => exact meets_wrapped (claimNext_meets _ _)
  | drainReceipts protocolOwnership => exact meets_wrapped (drainReceipts_meets _)
  | claim protocolOwnership deliveryID roomID eventID roomSequence replyRequired =>
      exact meets_wrapped ((claim_meets _ _ _ _ _ _).imp fun _ _ _ => trivial)
  | reply protocolOwnership roomID text inReplyToEventID =>
      exact meets_wrapped (reply_meets _ _ _ _)
  | acknowledge protocolOwnership deliveryID =>
      exact meets_wrapped (acknowledge_meets _ _)
  | recordFailure protocolOwnership reason => exact meets_wrapped (recordFailure_meets _ _)
  | abandon protocolOwnership => exact meets_wrapped (abandon_meets _)

end

end Triangle.Mailbox
