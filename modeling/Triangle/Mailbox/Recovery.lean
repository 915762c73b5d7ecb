import Triangle.Mailbox.Safety

/-!
# Resuming after a crash

What the next `claimNext` and the next `abandon` do with the record that any
run has left open, when the server answers again. `claimNext` hands a prepared
record out as it is, although `claim` would finish it; a receipt-only record is
settled from the state claimed alone; and `abandon` cannot pass the quarantine
file that an earlier `abandon` has left beside the record.
-/

namespace Triangle.Mailbox

open Triangle.Std Triangle.Semantics

/-- The store works, and the server grants each claim under the identifier it was
asked for and finds every reply that it holds. -/
structure Healthy (environment : Call → Choice) : Prop where
  succeeds : ∀ request, (environment request).fate = .success
  grants : ∀ deliveryID claimID,
    (environment (.claim deliveryID claimID)).claimResult.claimed = true ∧
      (environment (.claim deliveryID claimID)).claimResult.claimID = claimID
  finds : ∀ roomID key, (environment (.lookupReplyEventID roomID key)).lookupFinds = true

/-- The server can answer the reply of the record idempotently: it does not hold
the key for another room. -/
def ReplyKeyIsFree (server : Server) (record : OpenTransaction) : Prop :=
  ∀ event ∈ server.replies, event.idempotencyKey = record.replyIdempotencyKey →
    event.roomID = record.roomID

section

variable (sha256Hex : String → String) (instanceID : ClientInstanceId)
  (environment : Call → Choice) (process : Nat)

/-- One process runs a command to its end while no other comes in between. -/
def runCommand (world : World) (command : Command) : World × Except ServiceError Outcome :=
  (code sha256Hex instanceID command).exec
    ((helpers sha256Hex instanceID).handles environment process)
    ((helpers sha256Hex instanceID).enter process world)

/-- Whatever a reply says and refers to, it succeeds and the acknowledgement
after it succeeds too and leaves no record. -/
def CanFinish (world : World) (record : OpenTransaction) : Prop :=
  ∀ text inReplyToEventID, isReplyText text = true →
    (∀ given ∈ inReplyToEventID, record.inboundEventID = some given) →
    let replied := runCommand sha256Hex instanceID environment process world
      (.reply record.protocolOwnership record.roomID text inReplyToEventID)
    let acknowledged := runCommand sha256Hex instanceID environment process replied.1
      (.acknowledge record.protocolOwnership (some record.deliveryID))
    (∃ next, replied.2 = .ok (.transaction next)) ∧ acknowledged.2 = .ok .acknowledged ∧
      acknowledged.1.store.openFile = none

/-- `claimNext` settles a receipt-only delivery, or returns an open transaction
that is claimed or replied and can be finished. -/
def Resumes (world : World) (protocolOwnership : TransactionProtocol)
    (allowedRoomID : Option RoomId) : Prop :=
  let claimed := runCommand sha256Hex instanceID environment process world
    (.claimNext protocolOwnership allowedRoomID)
  ∃ payload, claimed.2 = .ok (.status payload) ∧
    (payload.receiptOnly = true ∧ claimed.1.store.openFile = none ∨
      ∃ record, payload.evaluation.openTransaction = some record ∧
        (record.state = .claimed ∨ record.state = .replied) ∧
        CanFinish sha256Hex instanceID environment process claimed.1 record)

/-- `abandon` succeeds and leaves no record. -/
def Abandons (world : World) (protocolOwnership : TransactionProtocol) : Prop :=
  let abandoned := runCommand sha256Hex instanceID environment process world
    (.abandon protocolOwnership)
  (∃ entry, abandoned.2 = .ok (.quarantined entry)) ∧ abandoned.1.store.openFile = none

end

/-- The states from which `claimNext` goes on. -/
def Resumable (record : OpenTransaction) : Prop :=
  if record.replyRequired then record.state ≠ .prepared else record.state = .claimed

instance (record : OpenTransaction) : Decidable (Resumable record) :=
  inferInstanceAs (Decidable (if record.replyRequired then record.state ≠ .prepared
    else record.state = .claimed))

variable {sha256Hex : String → String} {instanceID : ClientInstanceId}
  {environment : Call → Choice} {process : Nat} {world : World} {record : OpenTransaction}

/-! ## Calls that are answered -/

section

variable (healthy : Healthy environment)

include healthy

theorem exec_readOpen (isOpen : world.store.openFile = some record)
    (genuine : Genuine sha256Hex instanceID record) :
    readOpen.exec ((helpers sha256Hex instanceID).handles environment process) world =
      (world.see process record, .ok (some record)) := by
  have read := Store.readOpen_of_open isOpen genuine.1 genuine.2
  have handled : (helpers sha256Hex instanceID).handles environment process world .readOpen =
      (world.see process record, .ok (some record)) := by
    simp [Interleaving.handles, helpers, perform, healthy.succeeds, read]
  exact Program.exec_attempt handled rfl

theorem exec_listQuarantined
    (readable : ∀ entry ∈ world.store.quarantine, entry.isReadable = true) :
    ∃ quarantined, listQuarantined.exec
      ((helpers sha256Hex instanceID).handles environment process) world =
        (world, .ok quarantined) := by
  have listed : world.store.listQuarantined = .ok (world.store.quarantine.insertionSort
      fun first second => first.deliveryID ≤ second.deliveryID) := by
    unfold Store.listQuarantined
    rw [require_bind_ok, pure_ok]
    exact ⟨List.all_eq_true.mpr readable, rfl⟩
  have handled : (helpers sha256Hex instanceID).handles environment process world
      .listQuarantined = (world, .ok (world.store.quarantine.insertionSort
        fun first second => first.deliveryID ≤ second.deliveryID)) := by
    simp [Interleaving.handles, helpers, perform, healthy.succeeds, listed]
  exact ⟨_, Program.exec_attempt handled rfl⟩

theorem exec_acknowledgeUpstream (transaction : OpenTransaction) :
    ∃ after, (acknowledgeUpstream transaction).exec
      ((helpers sha256Hex instanceID).handles environment process) world = (after, .ok ()) ∧
        after.store = world.store := by
  have handled : (helpers sha256Hex instanceID).handles environment process world
      (.acknowledge transaction.deliveryID transaction.claimID) =
        (world.note (.ackSent (world.seen process) transaction.deliveryID transaction.claimID
          world.server.replies), .ok ()) := by
    simp [Interleaving.handles, helpers, perform, healthy.succeeds]
  exact ⟨_, Program.exec_attempt handled rfl, rfl⟩

theorem exec_clear (isOpen : world.store.openFile = some record)
    (genuine : Genuine sha256Hex instanceID record) :
    ∃ after, (clear record.deliveryID).exec
      ((helpers sha256Hex instanceID).handles environment process) world = (after, .ok ()) ∧
        after.store.openFile = none := by
  have cleared : world.store.clear sha256Hex instanceID (some record.deliveryID) =
      .ok { world.store with openFile := none } := by
    unfold Store.clear
    rw [bind_ok]
    refine ⟨record, Store.readOpenFile_of_open isOpen genuine.1, ?_⟩
    rw [require_bind_ok, require_bind_ok, pure_ok]
    refine ⟨genuine.2, ?_, rfl⟩
    intro expected isExpected
    exact Option.some.inj isExpected
  have handled : (helpers sha256Hex instanceID).handles environment process world
      (.clear (some record.deliveryID)) =
        ({ world with store := { world.store with openFile := none } }.note
          (.removed (world.seen process) record), .ok ()) := by
    simp [Interleaving.handles, helpers, perform, healthy.succeeds, cleared, settleWrite,
      removedRecord, isOpen]
  exact ⟨_, Program.exec_attempt handled rfl, rfl⟩

theorem exec_replace {next : OpenTransaction} (isOpen : world.store.openFile = some record)
    (genuine : Genuine sha256Hex instanceID record) (same : Store.SameTransaction record next) :
    ∃ after, (replace next).exec
      ((helpers sha256Hex instanceID).handles environment process) world = (after, .ok ()) ∧
        after.store.openFile = some next := by
  have replaced : world.store.replace sha256Hex next =
      .ok { world.store with openFile := some next } := by
    unfold Store.replace
    rw [bind_ok]
    refine ⟨record, Store.readOpenFile_of_open isOpen genuine.1, ?_⟩
    rw [require_bind_ok, pure_ok]
    exact ⟨same, rfl⟩
  have handled : (helpers sha256Hex instanceID).handles environment process world
      (.replace next) =
        ({ world with store := { world.store with openFile := some next } }.see process next,
          .ok ()) := by
    simp [Interleaving.handles, helpers, perform, healthy.succeeds, replaced, settleWrite]
  exact ⟨_, Program.exec_attempt handled rfl, rfl⟩

/-- What `commitReply` makes of a reply that was created. -/
def markCreated (sha256Hex : String → String) (record : OpenTransaction) (event : EventId) :
    Service OpenTransaction :=
  match EventId.ofRaw event.value with
  | some eventID => checked (record.markingReplied sha256Hex eventID .created)
  | none => Program.fail .invalidUpstreamResponse

/-- The server creates the reply, or names the one it holds under the key. -/
theorem exec_commitReply (genuine : Genuine sha256Hex instanceID record)
    (isClaimed : record.state = .claimed) (isFree : ReplyKeyIsFree world.server record)
    (text : String) (inReplyToEventID : Option EventId) :
    ∃ after eventID resolution, (commitReply sha256Hex record text inReplyToEventID).exec
      ((helpers sha256Hex instanceID).handles environment process) world =
        (after, .ok { record with
          state := .replied, replyEventID := some eventID, replyResolution := resolution }) ∧
      after.store = world.store ∧ Genuine sha256Hex instanceID { record with
          state := .replied, replyEventID := some eventID, replyResolution := resolution } := by
  -- The record with the reply is one that the initialiser accepts.
  have marked : ∀ eventID resolution, resolution = .created ∨ resolution = .idempotencyConflict →
      record.markingReplied sha256Hex eventID resolution = .ok { record with
          state := .replied, replyEventID := some eventID, replyResolution := resolution } := by
    intro eventID resolution resolved
    unfold OpenTransaction.markingReplied
    rw [require_bind_ok, require_bind_ok]
    exact ⟨.inl isClaimed, resolved, OpenTransaction.make_of_derived genuine.1.1 genuine.1.2.1⟩
  have handled : (helpers sha256Hex instanceID).handles environment process world
      (.sendReply record.roomID record.replyIdempotencyKey text
        (inReplyToEventID.orElse fun _ => record.inboundEventID)) =
      ({ world.note (.replySent (world.seen process) record.roomID record.replyIdempotencyKey) with
          server := (world.server.sendReply record.roomID record.replyIdempotencyKey text
            (environment (.sendReply record.roomID record.replyIdempotencyKey text
              (inReplyToEventID.orElse fun _ => record.inboundEventID))).newEventID).1 },
        .ok (world.server.sendReply record.roomID record.replyIdempotencyKey text
          (environment (.sendReply record.roomID record.replyIdempotencyKey text
            (inReplyToEventID.orElse fun _ => record.inboundEventID))).newEventID).2) := by
    simp [Interleaving.handles, helpers, perform, healthy.succeeds]
  generalize (environment (.sendReply record.roomID record.replyIdempotencyKey text
    (inReplyToEventID.orElse fun _ => record.inboundEventID))).newEventID = newID at handled
  unfold commitReply
  rw [Program.exec_bind_ok (Program.exec_attempt handled (show id (Except.ok _) = _ from rfl))]
  -- A created reply has a well-formed event id.
  have created : ∀ after (event : EventId), after.store = world.store → ∃ final eventID resolution,
      Program.exec ((helpers sha256Hex instanceID).handles environment process) after
        (markCreated sha256Hex record event) =
        (final, .ok { record with
          state := .replied, replyEventID := some eventID, replyResolution := resolution }) ∧
      final.store = world.store ∧ Genuine sha256Hex instanceID { record with
          state := .replied, replyEventID := some eventID, replyResolution := resolution } := by
    intro after event sameStore
    refine ⟨after, event, .created, ?_, sameStore, ?_⟩
    · rw [markCreated, EventId.ofRaw_value]
      simp [checked, Program.ofExcept, marked event .created (.inl rfl), Except.mapError]
    · exact (OpenTransaction.markingReplied_ok genuine (marked event .created (.inl rfl))).2
  unfold Server.sendReply
  cases found : world.server.replies.find? fun event =>
      event.idempotencyKey = record.replyIdempotencyKey with
  | none => exact created _ newID rfl
  | some event =>
      have isKey : event.idempotencyKey = record.replyIdempotencyKey := by
        simpa using List.find?_some found
      have member := List.mem_of_find?_eq_some found
      have sameRoom := isFree event member isKey
      by_cases sameText : event.text = text
      · simp only [sameRoom, sameText, and_self, if_true]
        exact created _ event.eventID rfl
      · simp only [sameText, and_false, if_false]
        have looked : ∃ other, world.server.lookupReply record.roomID record.replyIdempotencyKey =
            some other := by
          apply Option.isSome_iff_exists.mp
          rw [Server.lookupReply, List.find?_isSome]
          exact ⟨event, member, by simp [sameRoom, isKey]⟩
        obtain ⟨other, isOther⟩ := looked
        generalize afterSend : ({ world.note (.replySent (world.seen process) record.roomID
          record.replyIdempotencyKey) with server := world.server } : World) = after
        have sameServer : after.server = world.server := by rw [← afterSend]
        have sameStore : after.store = world.store := by rw [← afterSend]; rfl
        have answered : (helpers sha256Hex instanceID).handles environment process after
            (.lookupReplyEventID record.roomID record.replyIdempotencyKey) =
              (after, .ok (some other.eventID.value)) := by
          simp [Interleaving.handles, helpers, perform, healthy.succeeds, healthy.finds, sameServer,
            isOther]
        rw [Program.exec_bind_ok
          (Program.exec_attempt answered (show id (Except.ok _) = _ from rfl))]
        have isMarked := marked other.eventID .idempotencyConflict (.inr rfl)
        refine ⟨after, other.eventID, .idempotencyConflict, ?_, sameStore, ?_⟩
        · simp [checked, Program.ofExcept, isMarked, Except.mapError]
        · exact (OpenTransaction.markingReplied_ok genuine isMarked).2

/-! ## Commands -/

/-- An acknowledgement of a replied record succeeds and leaves no record. -/
theorem acknowledge_replied (isOpen : world.store.openFile = some record)
    (genuine : Genuine sha256Hex instanceID record) (isReplied : record.state = .replied) :
    (runCommand sha256Hex instanceID environment process world
        (.acknowledge record.protocolOwnership (some record.deliveryID))).2 = .ok .acknowledged ∧
      (runCommand sha256Hex instanceID environment process world
        (.acknowledge record.protocolOwnership (some record.deliveryID))).1.store.openFile =
          none := by
  obtain ⟨eventID, isReply⟩ := genuine.1.replied isReplied
  generalize entered : (helpers sha256Hex instanceID).enter process world = start
  have startOpen : start.store.openFile = some record := by
    rw [← entered]
    exact isOpen
  obtain ⟨sent, acknowledges, sameStore⟩ := @exec_acknowledgeUpstream sha256Hex instanceID
    environment process (start.see process record) healthy record
  have sentOpen : sent.store.openFile = some record := by
    rw [sameStore]
    exact startOpen
  obtain ⟨cleared, clears, isGone⟩ := @exec_clear sha256Hex instanceID environment process sent
    record healthy sentOpen genuine
  have acknowledged : (acknowledge record.protocolOwnership (some record.deliveryID)).exec
      ((helpers sha256Hex instanceID).handles environment process) start = (cleared, .ok ()) := by
    unfold acknowledge
    rw [Program.exec_bind_ok (exec_readOpen healthy startOpen genuine)]
    rw [Program.exec_ensure rfl, Program.exec_ensure (by simp),
      Program.exec_ensure ⟨isReplied, by simp [isReply]⟩, Program.exec_bind_ok acknowledges]
    exact clears
  have ran : runCommand sha256Hex instanceID environment process world
      (.acknowledge record.protocolOwnership (some record.deliveryID)) =
        (cleared, .ok .acknowledged) := by
    unfold runCommand
    rw [entered]
    exact Program.exec_bind_ok acknowledged _
  rw [ran]
  exact ⟨rfl, isGone⟩

/-- A claimed or replied record that is not stuck can be finished. -/
theorem canFinish (isOpen : world.store.openFile = some record)
    (genuine : Genuine sha256Hex instanceID record) (notStuck : record.isStuck = false)
    (isFree : ReplyKeyIsFree world.server record)
    (standing : record.state = .claimed ∨ record.state = .replied) :
    CanFinish sha256Hex instanceID environment process world record := by
  intro text inReplyToEventID isText isInbound
  have sameInbound : ∀ inbound ∈ record.inboundEventID, ∀ given ∈ inReplyToEventID,
      given = inbound := by
    intro inbound isRecorded given isGiven
    exact Option.some.inj ((isInbound given isGiven).symm.trans isRecorded)
  generalize entered : (helpers sha256Hex instanceID).enter process world = start
  have startOpen : start.store.openFile = some record := by
    rw [← entered]
    exact isOpen
  have startFree : ReplyKeyIsFree start.server record := by
    rw [← entered]
    exact isFree
  -- The reply leaves a replied record of the same delivery.
  have replies : ∃ after next, runCommand sha256Hex instanceID environment process world
      (.reply record.protocolOwnership record.roomID text inReplyToEventID) =
        (after, .ok (.transaction next)) ∧ after.store.openFile = some next ∧
      Genuine sha256Hex instanceID next ∧ next.state = .replied ∧
      next.protocolOwnership = record.protocolOwnership ∧ next.deliveryID = record.deliveryID := by
    unfold runCommand code reply
    rw [entered]
    rcases standing with isClaimed | isReplied
    · obtain ⟨committed, eventID, resolution, commits, sameStore, nextGenuine⟩ :=
        @exec_commitReply sha256Hex instanceID environment process (start.see process record)
          record healthy genuine isClaimed startFree text inReplyToEventID
      have committedOpen : committed.store.openFile = some record := by
        rw [sameStore]
        exact startOpen
      obtain ⟨after, replaces, isNext⟩ := @exec_replace sha256Hex instanceID environment process
        committed record healthy { record with
          state := .replied, replyEventID := some eventID, replyResolution := resolution }
        committedOpen genuine ⟨rfl, rfl, rfl, rfl, rfl, rfl⟩
      refine ⟨after, _, Program.exec_bind_ok ?_ _, isNext, nextGenuine, rfl, rfl, rfl⟩
      rw [Program.exec_ensure isText, Program.exec_bind_ok (exec_readOpen healthy startOpen genuine)]
      rw [Program.exec_ensure rfl, Program.exec_ensure rfl, Program.exec_ensure sameInbound,
        Program.exec_ensure notStuck]
      rw [if_neg (by rw [isClaimed]; decide), Program.exec_ensure isClaimed,
        Program.exec_bind_ok commits, Program.exec_bind_ok replaces]
      rfl
    · refine ⟨start.see process record, record, Program.exec_bind_ok ?_ _, startOpen, genuine,
        isReplied, rfl, rfl⟩
      rw [Program.exec_ensure isText, Program.exec_bind_ok (exec_readOpen healthy startOpen genuine)]
      rw [Program.exec_ensure rfl, Program.exec_ensure rfl, Program.exec_ensure sameInbound,
        Program.exec_ensure notStuck]
      rw [if_pos isReplied]
      rfl
  obtain ⟨after, next, ran, afterOpen, nextGenuine, isReplied, sameProtocol, sameDelivery⟩ := replies
  have acknowledged := @acknowledge_replied sha256Hex instanceID environment process after next
    healthy afterOpen nextGenuine isReplied
  rw [sameProtocol, sameDelivery] at acknowledged
  rw [ran]
  exact ⟨⟨next, rfl⟩, acknowledged⟩

/-- `claimNext` hands an open record that requires a reply out as it is. -/
theorem claimNext_open (isOpen : world.store.openFile = some record)
    (genuine : Genuine sha256Hex instanceID record) (notStuck : record.isStuck = false)
    (readable : ∀ entry ∈ world.store.quarantine, entry.isReadable = true)
    {allowedRoomID : Option RoomId} (inRoom : ∀ allowed ∈ allowedRoomID, record.roomID = allowed)
    (needsReply : record.replyRequired = true) :
    ∃ after payload, runCommand sha256Hex instanceID environment process world
      (.claimNext record.protocolOwnership allowedRoomID) = (after, .ok (.status payload)) ∧
      payload.evaluation.openTransaction = some record ∧ payload.receiptOnly = false ∧
      after.store = world.store ∧ after.server = world.server := by
  generalize entered : (helpers sha256Hex instanceID).enter process world = start
  have sameStore : start.store = world.store := by
    rw [← entered]
    rfl
  have sameServer : start.server = world.server := by
    rw [← entered]
    rfl
  obtain ⟨quarantined, lists⟩ := @exec_listQuarantined sha256Hex instanceID environment process
    (start.see process record) healthy (by rw [← sameStore] at readable; exact readable)
  obtain ⟨evaluation, isEvaluation, isOpenRecord⟩ : ∃ evaluation,
      evaluate record.protocolOwnership [] (some record) quarantined = .ok evaluation ∧
        evaluation.openTransaction = some record := by
    simp [evaluate]
  refine ⟨start.see process record, { evaluation, quarantined }, ?_, isOpenRecord, rfl, sameStore,
    sameServer⟩
  unfold runCommand code claimNext
  rw [entered]
  refine Program.exec_bind_ok ?_ _
  rw [← sameStore] at isOpen
  rw [Program.exec_bind_ok (exec_readOpen healthy isOpen genuine)]
  unfold resumeNext
  rw [Program.exec_ensure rfl, Program.exec_ensure notStuck, Program.exec_ensure inRoom,
    Program.exec_bind_ok lists, if_neg (by simp [needsReply]), isEvaluation]
  rfl

/-- `claimNext` settles a claimed receipt-only record. -/
theorem claimNext_settles (isOpen : world.store.openFile = some record)
    (genuine : Genuine sha256Hex instanceID record) (notStuck : record.isStuck = false)
    (readable : ∀ entry ∈ world.store.quarantine, entry.isReadable = true)
    {allowedRoomID : Option RoomId} (inRoom : ∀ allowed ∈ allowedRoomID, record.roomID = allowed)
    (receiptOnly : record.replyRequired = false) (isClaimed : record.state = .claimed) :
    ∃ after payload, runCommand sha256Hex instanceID environment process world
      (.claimNext record.protocolOwnership allowedRoomID) = (after, .ok (.status payload)) ∧
      payload.receiptOnly = true ∧ after.store.openFile = none := by
  generalize entered : (helpers sha256Hex instanceID).enter process world = start
  have sameStore : start.store = world.store := by
    rw [← entered]
    rfl
  rw [← sameStore] at isOpen readable
  obtain ⟨quarantined, lists⟩ := @exec_listQuarantined sha256Hex instanceID environment process
    (start.see process record) healthy readable
  obtain ⟨sent, acknowledges, sentStore⟩ := @exec_acknowledgeUpstream sha256Hex instanceID
    environment process (start.see process record) healthy record
  have sentOpen : sent.store.openFile = some record := by
    rw [sentStore]
    exact isOpen
  obtain ⟨cleared, clears, isGone⟩ := @exec_clear sha256Hex instanceID environment process sent
    record healthy sentOpen genuine
  obtain ⟨evaluation, isEvaluation⟩ : ∃ evaluation,
      evaluate record.protocolOwnership [] none quarantined = .ok evaluation := by
    simp [evaluate]
  refine ⟨cleared, { evaluation, quarantined, replyRequired := some false, receiptOnly := true },
    ?_, rfl, isGone⟩
  unfold runCommand code claimNext
  rw [entered]
  refine Program.exec_bind_ok ?_ _
  rw [Program.exec_bind_ok (exec_readOpen healthy isOpen genuine)]
  unfold resumeNext settleReceiptOnly
  rw [Program.exec_ensure rfl, Program.exec_ensure notStuck, Program.exec_ensure inRoom,
    Program.exec_bind_ok lists, if_pos receiptOnly, Program.exec_ensure ⟨isClaimed, receiptOnly⟩,
    Program.exec_bind_ok acknowledges, Program.exec_bind_ok clears, isEvaluation]
  rfl

/-- `claimNext` throws on a receipt-only record that is not claimed. -/
theorem claimNext_throws (isOpen : world.store.openFile = some record)
    (genuine : Genuine sha256Hex instanceID record) (notStuck : record.isStuck = false)
    (readable : ∀ entry ∈ world.store.quarantine, entry.isReadable = true)
    {allowedRoomID : Option RoomId} (inRoom : ∀ allowed ∈ allowedRoomID, record.roomID = allowed)
    (receiptOnly : record.replyRequired = false) (notClaimed : record.state ≠ .claimed) :
    (runCommand sha256Hex instanceID environment process world
      (.claimNext record.protocolOwnership allowedRoomID)).2 = .error .invalidState := by
  generalize entered : (helpers sha256Hex instanceID).enter process world = start
  have sameStore : start.store = world.store := by
    rw [← entered]
    rfl
  rw [← sameStore] at isOpen readable
  obtain ⟨quarantined, lists⟩ := @exec_listQuarantined sha256Hex instanceID environment process
    (start.see process record) healthy readable
  have throws : (claimNext sha256Hex instanceID record.protocolOwnership allowedRoomID).exec
      ((helpers sha256Hex instanceID).handles environment process) start =
        (start.see process record, .error .invalidState) := by
    unfold claimNext
    rw [Program.exec_bind_ok (exec_readOpen healthy isOpen genuine)]
    unfold resumeNext settleReceiptOnly
    rw [Program.exec_ensure rfl, Program.exec_ensure notStuck, Program.exec_ensure inRoom,
      Program.exec_bind_ok lists, if_pos receiptOnly,
      Program.exec_ensure_not (fun holds => notClaimed holds.1)]
  unfold runCommand code
  rw [entered, Program.exec_bind_error throws]

section

variable (isOpen : world.store.openFile = some record)
  (genuine : Genuine sha256Hex instanceID record)
include isOpen genuine

theorem resumes_iff (notStuck : record.isStuck = false)
    (readable : ∀ entry ∈ world.store.quarantine, entry.isReadable = true)
    (isFree : ReplyKeyIsFree world.server record) {allowedRoomID : Option RoomId}
    (inRoom : ∀ allowed ∈ allowedRoomID, record.roomID = allowed) :
    Resumes sha256Hex instanceID environment process world record.protocolOwnership allowedRoomID ↔
      Resumable record := by
  unfold Resumes Resumable
  cases needsReply : record.replyRequired with
  | true =>
      obtain ⟨after, payload, ran, isRecord, notReceipt, sameStore, sameServer⟩ :=
        @claimNext_open _ _ _ process _ _ healthy isOpen genuine notStuck readable _ inRoom needsReply
      rw [if_pos rfl, ran]
      constructor
      · rintro ⟨given, isGiven, ⟨isReceipt, -⟩ | ⟨other, isOther, standing, -⟩⟩
        · cases isGiven
          rw [notReceipt] at isReceipt
          cases isReceipt
        · cases isGiven
          rw [isRecord] at isOther
          cases isOther
          rcases standing with isClaimed | isReplied
          · rw [isClaimed]
            decide
          · rw [isReplied]
            decide
      · intro notPrepared
        have standing : record.state = .claimed ∨ record.state = .replied := by
          cases state : record.state with
          | prepared => exact absurd state notPrepared
          | claimed => exact .inl rfl
          | replied => exact .inr rfl
        refine ⟨payload, rfl, .inr ⟨record, isRecord, standing, ?_⟩⟩
        exact canFinish healthy (sameStore ▸ isOpen) genuine notStuck (sameServer ▸ isFree) standing
  | false =>
      rw [if_neg (by decide)]
      by_cases isClaimed : record.state = .claimed
      · obtain ⟨after, payload, ran, isReceipt, isGone⟩ := @claimNext_settles _ _ _ process _ _
          healthy isOpen genuine notStuck readable _ inRoom needsReply isClaimed
        rw [ran]
        exact ⟨fun _ => isClaimed, fun _ => ⟨payload, rfl, .inl ⟨isReceipt, isGone⟩⟩⟩
      · have throws := @claimNext_throws _ _ _ process _ _ healthy isOpen genuine notStuck readable
          _ inRoom needsReply isClaimed
        constructor
        · rintro ⟨payload, isOk, -⟩
          rw [throws] at isOk
          cases isOk
        · exact fun claimed => absurd claimed isClaimed

theorem abandons_iff :
    Abandons sha256Hex instanceID environment process world record.protocolOwnership ↔
      ∀ entry ∈ world.store.quarantine, entry.correlationID ≠ correlationOf record.claimID := by
  generalize entered : (helpers sha256Hex instanceID).enter process world = start
  have sameStore : start.store = world.store := by
    rw [← entered]
    rfl
  rw [← sameStore] at isOpen ⊢
  have read := Store.readOpenFile_of_open isOpen genuine.1
  -- The command reads the record and leaves the rest to the store.
  have reads : (abandon record.protocolOwnership).exec
      ((helpers sha256Hex instanceID).handles environment process) start =
        (Program.attempt .abandon id ServiceError.store : Service Quarantined).exec
          ((helpers sha256Hex instanceID).handles environment process)
          (start.see process record) := by
    unfold abandon
    rw [Program.exec_bind_ok (exec_readOpen healthy isOpen genuine), Program.exec_ensure rfl]
  by_cases isNew : ∀ entry ∈ start.store.quarantine,
      entry.correlationID ≠ correlationOf record.claimID
  · obtain ⟨entry, isEntry⟩ : ∃ entry, start.store.quarantineEntry sha256Hex instanceID
        (environment .abandon).now = .ok entry := by
      refine ⟨⟨record.deliveryID, record.protocolOwnership, correlationOf record.claimID,
        (environment .abandon).now⟩, ?_⟩
      unfold Store.quarantineEntry
      rw [bind_ok]
      refine ⟨record, read, ?_⟩
      rw [require_bind_ok, require_bind_ok]
      exact ⟨genuine.2, isNew, rfl⟩
    have handled : (helpers sha256Hex instanceID).handles environment process
        (start.see process record) .abandon =
          ({ start.see process record with
              store := { start.store.withQuarantined entry with openFile := none } }.note
            (.removed (some record) record), .ok entry) := by
      simp [Interleaving.handles, helpers, perform, healthy.succeeds, World.see, isEntry,
        settleAbandon, removedRecord, isOpen]
    have ran : runCommand sha256Hex instanceID environment process world
        (.abandon record.protocolOwnership) = ({ start.see process record with
              store := { start.store.withQuarantined entry with openFile := none } }.note
            (.removed (some record) record), .ok (.quarantined entry)) := by
      unfold runCommand code
      rw [entered, Program.exec_bind_ok (reads.trans (Program.exec_attempt handled rfl))]
      rfl
    unfold Abandons
    rw [ran]
    exact ⟨fun _ => isNew, fun _ => ⟨⟨entry, rfl⟩, rfl⟩⟩
  · have refused : start.store.quarantineEntry sha256Hex instanceID
        (environment .abandon).now = .error .alreadyOpen := by
      simp [Store.quarantineEntry, read, genuine.2, require, isNew, bind, Except.bind]
    have handled : (helpers sha256Hex instanceID).handles environment process
        (start.see process record) .abandon =
          (start.see process record, .error .alreadyOpen) := by
      simp [Interleaving.handles, helpers, perform, World.see, refused, settleAbandon,
        removedRecord, isOpen]
    have throws := Program.exec_bind_error
      (reads.trans (Program.exec_attempt_error handled rfl))
      (fun entry => (pure (.quarantined entry) : Service Outcome))
    constructor
    · rintro ⟨⟨entry, isOk⟩, -⟩
      unfold runCommand code at isOk
      rw [entered] at isOk
      rw [throws] at isOk
      cases isOk
    · exact fun passes => absurd passes isNew

end

end

/-- In every state that a run reaches, with the store and the server working
again and a record open that is not stuck and not in another room: `claimNext`
resumes exactly when the record is past its preparation and, if receipt-only,
still claimed; and `abandon` gets rid of the record exactly when no quarantine
file has its name. -/
theorem resumable_exactly (sha256Hex : String → String) (instanceID : ClientInstanceId)
    (events : List HelperEvent) (environment : Call → Choice) (healthy : Healthy environment)
    (process : Nat) (record : OpenTransaction) (allowedRoomID : Option RoomId) :
    let world := ((helperMachine sha256Hex instanceID).run events).world
    world.store.openFile = some record → record.isStuck = false →
    (∀ allowed ∈ allowedRoomID, record.roomID = allowed) → ReplyKeyIsFree world.server record →
    (Resumes sha256Hex instanceID environment process world record.protocolOwnership
        allowedRoomID ↔ Resumable record) ∧
      (Abandons sha256Hex instanceID environment process world record.protocolOwnership ↔
        ∀ entry ∈ world.store.quarantine, entry.correlationID ≠ correlationOf record.claimID) := by
  intro world isOpen notStuck inRoom isFree
  have sound : HelpersSound sha256Hex instanceID (fun _ => True)
      ((helperMachine sha256Hex instanceID).run events) := helpersSound_run events
  have genuine := (sound.world.openGenuine record isOpen).1
  exact ⟨resumes_iff healthy isOpen genuine notStuck sound.world.readable isFree inRoom,
    abandons_iff healthy isOpen genuine⟩

/-! ## A record that `claimNext` does not resume -/

/-- A working store and a server that grants what it is asked for. -/
def sampleEnvironment : Call → Choice
  | .claim _ claimID => { sampleChoice with claimResult := ⟨true, claimID, true⟩ }
  | _ => sampleChoice

theorem sampleEnvironment_healthy : Healthy sampleEnvironment where
  succeeds request := by cases request <;> rfl
  grants _ _ := ⟨rfl, rfl⟩
  finds _ _ := rfl

/-- A process prepares the record of delivery 41 and is killed. -/
def killedAfterPrepare : List HelperEvent :=
  runs 0 (.claim .coordinatorDeliveryV1 41 sampleRoom none none true) 3 ++ [.crash 0]

/-- The state of the open record, whether it is stuck and needs a reply, and how
many replies and quarantine files there are. -/
def standing (world : World) : Option (TransactionState × Bool × Bool × Nat × Nat) :=
  world.store.openFile.map fun record => (record.state, record.isStuck, record.replyRequired,
    world.server.replies.length, world.store.quarantine.length)

theorem resumable_exactly_claimed :
    ∃ record, ((helperMachine sampleDigest sampleInstance).run (runs 0
        (.claim .coordinatorDeliveryV1 41 sampleRoom none none true) 6)).world.store.openFile =
          some record ∧
      Resumes sampleDigest sampleInstance sampleEnvironment 1
        ((helperMachine sampleDigest sampleInstance).run (runs 0
          (.claim .coordinatorDeliveryV1 41 sampleRoom none none true) 6)).world
        record.protocolOwnership none ∧
      Abandons sampleDigest sampleInstance sampleEnvironment 1
        ((helperMachine sampleDigest sampleInstance).run (runs 0
          (.claim .coordinatorDeliveryV1 41 sampleRoom none none true) 6)).world
        record.protocolOwnership := by
  have evaluated : standing ((helperMachine sampleDigest sampleInstance).run (runs 0
      (.claim .coordinatorDeliveryV1 41 sampleRoom none none true) 6)).world =
        some (.claimed, false, true, 0, 0) := by
    decide +kernel
  obtain ⟨record, isOpen, facts⟩ := Option.map_eq_some_iff.mp evaluated
  simp only [Prod.mk.injEq, List.length_eq_zero_iff] at facts
  obtain ⟨isClaimed, notStuck, needsReply, noReplies, noQuarantine⟩ := facts
  have exactly := resumable_exactly sampleDigest sampleInstance _ sampleEnvironment
    sampleEnvironment_healthy 1 record none isOpen notStuck
  rw [noQuarantine] at exactly
  have both := exactly (fun _ isAllowed => (nomatch isAllowed))
    (by rw [ReplyKeyIsFree, noReplies]; exact fun _ member => (nomatch member))
  refine ⟨record, isOpen, both.1.mpr ?_, both.2.mpr (fun _ member => (nomatch member))⟩
  rw [Resumable, needsReply, isClaimed]
  decide

/-- The record is left prepared, and `claimNext` returns it so. -/
theorem claimNext_returns_prepared :
    ¬ ∀ (events : List HelperEvent) (environment : Call → Choice), Healthy environment →
      ∀ (process : Nat) (record : OpenTransaction) (allowedRoomID : Option RoomId),
        let world := ((helperMachine sampleDigest sampleInstance).run events).world
        world.store.openFile = some record → record.isStuck = false →
        (∀ allowed ∈ allowedRoomID, record.roomID = allowed) →
        ReplyKeyIsFree world.server record →
        Resumes sampleDigest sampleInstance environment process world record.protocolOwnership
            allowedRoomID ∧
          Abandons sampleDigest sampleInstance environment process world
            record.protocolOwnership := by
  intro resumable
  have evaluated : standing ((helperMachine sampleDigest sampleInstance).run
      killedAfterPrepare).world = some (.prepared, false, true, 0, 0) := by
    decide +kernel
  obtain ⟨record, isOpen, facts⟩ := Option.map_eq_some_iff.mp evaluated
  simp only [Prod.mk.injEq, List.length_eq_zero_iff] at facts
  obtain ⟨isPrepared, notStuck, needsReply, noReplies, -⟩ := facts
  have sound : HelpersSound sampleDigest sampleInstance (fun _ => True)
      ((helperMachine sampleDigest sampleInstance).run killedAfterPrepare) :=
    helpersSound_run killedAfterPrepare
  have inRoom : ∀ allowed ∈ (none : Option RoomId), record.roomID = allowed :=
    fun _ isAllowed => (nomatch isAllowed)
  have isFree : ReplyKeyIsFree ((helperMachine sampleDigest sampleInstance).run
      killedAfterPrepare).world.server record := by
    rw [ReplyKeyIsFree, noReplies]
    exact fun _ member => (nomatch member)
  have resumes := (resumable killedAfterPrepare sampleEnvironment sampleEnvironment_healthy 0
    record none isOpen notStuck inRoom isFree).1
  rw [resumes_iff sampleEnvironment_healthy isOpen (sound.world.openGenuine record isOpen).1
    notStuck sound.world.readable isFree inRoom, Resumable, needsReply, isPrepared] at resumes
  exact resumes rfl

end Triangle.Mailbox
