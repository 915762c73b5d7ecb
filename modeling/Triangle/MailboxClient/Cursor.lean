import Triangle.MailboxClient.Contract

/-!
# No delivery is skipped

One cursor stands for all that the client is done with. A delivery that is not
done with stays reachable, queued for a retry or above the cursor, in every run
in which the cursor passes no delivery that is neither done with nor queued,
and in which no entry below the cursor is dropped from the queue. The client
makes sure of neither: a page with several deliveries may be settled in any
order, and a delivery that another worker has claimed is passed over although
its claim may expire.
-/

namespace Triangle.MailboxClient

open Triangle.Std Triangle.Semantics

/-- The message of a delivery is queued for a retry. -/
def Queued (memory : Memory) (id : Nat) : Prop :=
  ∃ ref message, memory.retryDeliveries.find? id = some ⟨id, ref⟩ ∧
    memory.messages[ref]? = some message ∧ message.id = id

/-- The server holds the delivery, and nobody is done with it. -/
structure Unfinished (world : World) (id : Nat) : Prop where
  isIssued : ∃ delivery ∈ world.server.issued, delivery.id = id
  isOpen : world.server.standing id ≠ .acknowledged
  unacknowledged : id ∉ world.acknowledged
  unquarantined : world.memory.isQuarantined id = false

/-- A call leaves no unfinished delivery behind the cursor. -/
def LeavesNoneBehind (world : World) : Call → Prop
  | .advanceListCursor id => ∀ other ≤ id, Unfinished world other → Queued world.memory other
  | .quarantineDelivery id _ _ =>
      ∀ other < id, Unfinished world other → Queued world.memory other
  | .deleteRetry id => Unfinished world id → world.memory.listAfterCursor < id
  | _ => True

/-- No call of the run leaves an unfinished delivery behind the cursor. -/
def InOrder (state : ClientState) (event : ClientEvent) : Prop :=
  ∀ process request, Interleaving.calls state event = some (process, request) →
    LeavesNoneBehind state.world request

/-- The invariant of the client and the server. -/
structure Kept (world : World) : Prop where
  numbered : ∀ delivery ∈ world.server.issued, delivery.id ≤ world.server.issued.length
  cursor : world.memory.listAfterCursor ≤ world.server.issued.length
  messages : ∀ message ∈ world.memory.messages, message.id ≤ world.server.issued.length
  reachable : ∀ id, Unfinished world id → Queued world.memory id ∨ world.memory.listAfterCursor < id

/-- What an operation knows is so. -/
structure Knows (world : World) (known : Knowledge) : Prop where
  issued : ∀ id ∈ known.issued, id ≤ world.server.issued.length
  messages : ∀ entry ∈ known.messages, ∃ message, world.memory.messages[entry.2]? = some message ∧
    message.id = entry.1

/-- No delivery and no message is lost, and no message changes its delivery. -/
structure Grows (before after : World) : Prop where
  issued : before.server.issued.length ≤ after.server.issued.length
  messages : ∀ (ref : Nat) (message : Message), before.memory.messages[ref]? = some message →
    ∃ later, after.memory.messages[ref]? = some later ∧ later.id = message.id

variable {world after : World} {known : Knowledge}

theorem Knows.grow (knows : Knows world known) (grows : Grows world after) : Knows after known where
  issued id member := Nat.le_trans (knows.issued id member) grows.issued
  messages entry member := by
    obtain ⟨message, isMessage, isAbout⟩ := knows.messages entry member
    obtain ⟨later, isLater, same⟩ := grows.messages entry.2 message isMessage
    exact ⟨later, isLater, same.trans isAbout⟩

variable {id : Nat} {memory : Memory} {state : ClientState} {event : ClientEvent}

theorem Queued.grow {memory later : Memory} (queued : Queued memory id)
    (kept : ∀ entry, memory.retryDeliveries.find? id = some entry →
      later.retryDeliveries.find? id = some entry)
    (messages : ∀ (ref : Nat) (message : Message), memory.messages[ref]? = some message →
      ∃ next, later.messages[ref]? = some next ∧ next.id = message.id) : Queued later id := by
  obtain ⟨ref, message, isQueued, isMessage, isAbout⟩ := queued
  obtain ⟨next, isNext, same⟩ := messages ref message isMessage
  exact ⟨ref, next, kept _ isQueued, isNext, same.trans isAbout⟩

theorem Grows.of_same (issued : after.server.issued = world.server.issued)
    (messages : after.memory.messages = world.memory.messages) : Grows world after where
  issued := Nat.le_of_eq (congrArg List.length issued.symm)
  messages ref message isMessage := ⟨message, by rw [messages, isMessage], rfl⟩

/-- Changes that keep every delivery issued, the cursor, the queue and the messages,
and make no delivery unfinished. -/
theorem Kept.unmoved (kept : Kept world) (issued : after.server.issued = world.server.issued)
    (cursor : after.memory.listAfterCursor = world.memory.listAfterCursor)
    (queue : after.memory.retryDeliveries = world.memory.retryDeliveries)
    (messages : after.memory.messages = world.memory.messages)
    (unfinished : ∀ id, Unfinished after id → Unfinished world id) : Kept after where
  numbered := by
    rw [issued]
    exact kept.numbered
  cursor := by
    rw [issued, cursor]
    exact kept.cursor
  messages := by
    rw [issued, messages]
    exact kept.messages
  reachable id isUnfinished := by
    rw [cursor]
    rcases kept.reachable id (unfinished id isUnfinished) with queued | above
    · exact .inl (queued.grow (fun entry isEntry => by rw [queue, isEntry])
        fun ref message isMessage => ⟨message, by rw [messages, isMessage], rfl⟩)
    · exact .inr above

/-- A change of the variables that the invariant does not speak of. -/
theorem Kept.elsewhere (kept : Kept world)
    (cursor : memory.listAfterCursor = world.memory.listAfterCursor)
    (queue : memory.retryDeliveries = world.memory.retryDeliveries)
    (quarantined : memory.quarantinedDeliveries = world.memory.quarantinedDeliveries)
    (messages : memory.messages = world.memory.messages) : Kept (world.withMemory memory) := by
  refine kept.unmoved rfl cursor queue messages fun id unfinished => ?_
  refine ⟨unfinished.isIssued, unfinished.isOpen, unfinished.unacknowledged, ?_⟩
  rw [Memory.isQuarantined, ← quarantined]
  exact unfinished.unquarantined

/-! ## What a call changes -/

/-- The server issues nothing and reopens nothing. -/
structure Server.Settles (before after : Server) : Prop where
  issued : after.issued = before.issued
  standing : ∀ id, after.standing id ≠ .acknowledged → before.standing id ≠ .acknowledged

variable (server : Server)

/-- One standing of a delivery that was not acknowledged may be set to any. -/
theorem Server.settles_setStanding (id : Nat) (standing : Standing)
    (settles : standing ≠ .acknowledged → server.standing id ≠ .acknowledged) :
    server.Settles (server.setStanding id standing) where
  issued := rfl
  standing other isOpen := by
    by_cases same : other = id
    · subst same
      simp only [Server.setStanding, Function.update_self] at isOpen
      exact settles isOpen
    · simp only [Server.setStanding, Function.update_of_ne same] at isOpen
      exact isOpen

theorem Server.settles_refl : server.Settles server :=
  ⟨rfl, fun _ isOpen => isOpen⟩

theorem Server.settles_claim (id : Nat) (claimId : String) (leaseExpiresAt : Option String) :
    server.Settles (server.claim id claimId leaseExpiresAt).1 := by
  unfold Server.claim
  split
  next isPending =>
    apply server.settles_setStanding
    rw [isPending]
    exact fun _ => nofun
  next => exact server.settles_refl
  next => exact server.settles_refl

theorem Server.settles_ack (id : Nat) (claimId : String) :
    server.Settles (server.ack id claimId) := by
  unfold Server.ack
  split
  · exact server.settles_setStanding id .acknowledged fun isOpen => absurd rfl isOpen
  · exact server.settles_refl

/-- The others issue a delivery, or settle. -/
theorem Server.act_cases (action : ServerAction) :
    server.Settles (server.act action) ∨ ∃ delivery,
      delivery.id = server.issued.length + 1 ∧
      server.act action = { issued := server.issued ++ [delivery]
                            standing := Function.update server.standing delivery.id .pending } := by
  cases action with
  | arrive roomId eventId roomSequence malformed => exact .inr ⟨_, rfl, rfl⟩
  | claimElsewhere id claimId =>
      left
      unfold Server.act
      dsimp only
      split
      next isPending =>
        apply server.settles_setStanding
        rw [isPending]
        exact fun _ => nofun
      next => exact server.settles_refl
  | acknowledgeElsewhere id =>
      exact .inl (server.settles_setStanding id .acknowledged fun isOpen => absurd rfl isOpen)
  | expireClaim id =>
      left
      unfold Server.act
      dsimp only
      split
      next holder isClaimed =>
        apply server.settles_setStanding
        rw [isClaimed]
        exact fun _ => nofun
      next => exact server.settles_refl

theorem changeMetadata_id (memory : Memory) (change : MetadataChange) (ref place : Nat)
    (message : Message) (isMessage : memory.messages[place]? = some message) :
    ∃ later, (memory.changeMetadata ref change).messages[place]? = some later ∧
      later.id = message.id := by
  rw [Memory.changeMetadata, List.getElem?_modify, isMessage]
  refine ⟨_, rfl, ?_⟩
  dsimp only
  split
  · cases change <;> rfl
  · rfl

@[simp] theorem Memory.advanceListCursor_messages (memory : Memory) (id : Nat) :
    (memory.advanceListCursor id).messages = memory.messages := by
  unfold Memory.advanceListCursor
  split <;> rfl

@[simp] theorem Memory.advanceListCursor_retryDeliveries (memory : Memory) (id : Nat) :
    (memory.advanceListCursor id).retryDeliveries = memory.retryDeliveries := by
  unfold Memory.advanceListCursor
  split <;> rfl

@[simp] theorem Memory.advanceListCursor_quarantinedDeliveries (memory : Memory) (id : Nat) :
    (memory.advanceListCursor id).quarantinedDeliveries = memory.quarantinedDeliveries := by
  unfold Memory.advanceListCursor
  split <;> rfl

theorem Memory.advanceListCursor_cursor (memory : Memory) (id : Nat) :
    (memory.advanceListCursor id).listAfterCursor = max memory.listAfterCursor id := by
  unfold Memory.advanceListCursor
  split
  next below => exact (Nat.max_eq_right (Nat.le_of_lt below)).symm
  next notBelow => exact (Nat.max_eq_left (Nat.le_of_not_lt notBelow)).symm

/-- A request to the server, however it ends, settles at most and leaves the memory alone. -/
theorem perform_claim (id : Nat) (claimId : String) (choice : Choice) :
    ∃ server, (perform world (.claim id claimId) choice).1 = { world with server } ∧
      world.server.Settles server := by
  have settles := world.server.settles_claim id claimId choice.leaseExpiresAt
  unfold perform
  dsimp only
  cases choice.fate with
  | answered | lost => exact ⟨_, rfl, settles⟩
  | refused => exact ⟨_, rfl, world.server.settles_refl⟩

theorem perform_ack (id : Nat) (claimId : String) (choice : Choice) :
    ∃ server acknowledged, (perform world (.ack id claimId) choice).1 =
        { world with server, acknowledged } ∧
      world.server.Settles server ∧ ∀ other ∈ world.acknowledged, other ∈ acknowledged := by
  have settles := world.server.settles_ack id claimId
  unfold perform
  dsimp only
  cases choice.fate with
  | answered => exact ⟨_, _, rfl, settles, fun _ member => List.mem_cons_of_mem _ member⟩
  | lost => exact ⟨_, world.acknowledged, rfl, settles, fun _ member => member⟩
  | refused =>
      exact ⟨_, world.acknowledged, rfl, world.server.settles_refl, fun _ member => member⟩

/-- Every call keeps the deliveries and the messages. -/
theorem perform_grows (request : Call) (choice : Choice) :
    Grows world (perform world request choice).1 := by
  cases request with
  | advanceListCursor id => exact .of_same rfl (world.memory.advanceListCursor_messages id)
  | quarantineDelivery id reason message =>
      exact .of_same rfl (Memory.advanceListCursor_messages _ id)
  | claim id claimId =>
      obtain ⟨server, isAfter, settles⟩ := @perform_claim world id claimId choice
      rw [isAfter]
      exact .of_same settles.issued rfl
  | ack id claimId =>
      obtain ⟨server, acknowledged, isAfter, settles, -⟩ := @perform_ack world id claimId choice
      rw [isAfter]
      exact .of_same settles.issued rfl
  | createMessage recipientId delivery event =>
      refine ⟨Nat.le_refl _, fun ref message isMessage => ⟨message, ?_, rfl⟩⟩
      exact (List.getElem?_append_left (List.getElem?_eq_some_iff.mp isMessage).1).trans isMessage
  | beginDelivery id =>
      unfold perform
      dsimp only
      split
      · exact .of_same rfl rfl
      · exact .of_same rfl rfl
  | changeMetadata ref change =>
      exact ⟨Nat.le_refl _, fun place message isMessage =>
        changeMetadata_id world.memory change ref place message isMessage⟩
  | others action =>
      rcases world.server.act_cases action with settles | ⟨delivery, -, isAfter⟩
      · exact .of_same settles.issued rfl
      · refine ⟨?_, fun ref message isMessage => ⟨message, isMessage, rfl⟩⟩
        change _ ≤ (world.server.act action).issued.length
        rw [isAfter]
        simp
  | _ => exact .of_same rfl rfl

/-- A change of the server that settles, and a longer history. -/
theorem Kept.settle (kept : Kept world) {server : Server} {acknowledged : List Nat}
    (settles : world.server.Settles server)
    (grows : ∀ other ∈ world.acknowledged, other ∈ acknowledged) :
    Kept { world with server, acknowledged } := by
  refine kept.unmoved settles.issued rfl rfl rfl ?_
  intro id unfinished
  refine ⟨?_, settles.standing id unfinished.isOpen, ?_, unfinished.unquarantined⟩
  · rw [← settles.issued]
    exact unfinished.isIssued
  · exact fun member => unfinished.unacknowledged (grows id member)

theorem Kept.advance (kept : Kept world) (isIssued : id ≤ world.server.issued.length)
    (leaves : ∀ other ≤ id, Unfinished world other → Queued world.memory other) :
    Kept (world.withMemory (world.memory.advanceListCursor id)) where
  numbered := kept.numbered
  cursor := by
    change (world.memory.advanceListCursor id).listAfterCursor ≤ world.server.issued.length
    have before := kept.cursor
    rw [Memory.advanceListCursor_cursor]
    omega
  messages := by
    change ∀ message ∈ (world.memory.advanceListCursor id).messages, _
    rw [Memory.advanceListCursor_messages]
    exact kept.messages
  reachable other unfinished := by
    change Queued (world.memory.advanceListCursor id) other ∨
      (world.memory.advanceListCursor id).listAfterCursor < other
    have before : Unfinished world other := by
      refine ⟨unfinished.isIssued, unfinished.isOpen, unfinished.unacknowledged, ?_⟩
      rw [← unfinished.unquarantined]
      change _ = (world.memory.advanceListCursor id).isQuarantined other
      rw [Memory.isQuarantined, Memory.isQuarantined,
        Memory.advanceListCursor_quarantinedDeliveries]
    have stays : Queued world.memory other → Queued (world.memory.advanceListCursor id) other := by
      intro queued
      unfold Queued
      rw [Memory.advanceListCursor_retryDeliveries, Memory.advanceListCursor_messages]
      exact queued
    rw [Memory.advanceListCursor_cursor]
    by_cases passed : other ≤ id
    · exact .inl (stays (leaves other passed before))
    · rcases kept.reachable other before with queued | above
      · exact .inl (stays queued)
      · right
        omega

theorem Kept.setRetry (kept : Kept world) {id ref : Nat} {message : Message}
    (isMessage : world.memory.messages[ref]? = some message) (isAbout : message.id = id) :
    Kept (world.withMemory (world.memory.setRetry id ref)) where
  numbered := kept.numbered
  cursor := kept.cursor
  messages := kept.messages
  reachable other unfinished := by
    change Queued (world.memory.setRetry id ref) other ∨ world.memory.listAfterCursor < other
    by_cases same : other = id
    · subst same
      left
      refine ⟨ref, message, ?_, isMessage, isAbout⟩
      rw [Memory.setRetry, Table.find?_upsert, if_pos rfl]
    · rcases kept.reachable other ⟨unfinished.isIssued, unfinished.isOpen,
        unfinished.unacknowledged, unfinished.unquarantined⟩ with queued | above
      · left
        refine queued.grow (fun entry isEntry => ?_)
          fun place found isFound => ⟨found, isFound, rfl⟩
        rw [Memory.setRetry, Table.find?_upsert, if_neg same, isEntry]
      · exact .inr above

/-- Dropping the entry of a delivery leaves the others queued. -/
theorem Queued.deleteRetry {id other : Nat} (queued : Queued memory other)
    (different : other ≠ id) : Queued (memory.deleteRetry id) other := by
  refine queued.grow (fun entry isEntry => ?_) fun place found isFound => ⟨found, isFound, rfl⟩
  have isKey := (Table.find?_some isEntry).2
  rw [Memory.deleteRetry, Table.find?_delete, isEntry, Option.filter_some, if_pos]
  simp [isKey, different]

section

variable (kept : Kept world)
include kept

theorem Kept.deleteRetry (leaves : Unfinished world id → world.memory.listAfterCursor < id) :
    Kept (world.withMemory (world.memory.deleteRetry id)) where
  numbered := kept.numbered
  cursor := kept.cursor
  messages := kept.messages
  reachable other unfinished := by
    have before : Unfinished world other :=
      ⟨unfinished.isIssued, unfinished.isOpen, unfinished.unacknowledged,
        unfinished.unquarantined⟩
    by_cases same : other = id
    · subst same
      exact .inr (leaves before)
    · rcases kept.reachable other before with queued | above
      · exact .inl (queued.deleteRetry same)
      · exact .inr above

theorem Kept.quarantine (isIssued : id ≤ world.server.issued.length)
    (leaves : ∀ other < id, Unfinished world other → Queued world.memory other) (reason : String)
    (message : Option Nat) (now : String) :
    Kept (world.withMemory (world.memory.quarantineDelivery id reason message now)) where
  numbered := kept.numbered
  cursor := by
    change (Memory.advanceListCursor _ id).listAfterCursor ≤ world.server.issued.length
    have before := kept.cursor
    rw [Memory.advanceListCursor_cursor]
    exact Nat.max_le.mpr ⟨before, isIssued⟩
  messages := by
    change ∀ message ∈ (Memory.advanceListCursor _ id).messages, _
    rw [Memory.advanceListCursor_messages]
    exact kept.messages
  reachable other unfinished := by
    -- The delivery itself is finished; every other is as quarantined as before.
    have quarantined := unfinished.unquarantined
    change (world.memory.quarantineDelivery id reason message now).isQuarantined other = false
      at quarantined
    rw [Memory.isQuarantined, Memory.quarantineDelivery, Table.find?_upsert,
      Memory.advanceListCursor_quarantinedDeliveries] at quarantined
    have different : other ≠ id := by
      rintro rfl
      simp at quarantined
    rw [if_neg different] at quarantined
    have before : Unfinished world other :=
      ⟨unfinished.isIssued, unfinished.isOpen, unfinished.unacknowledged, quarantined⟩
    have stays : Queued world.memory other →
        Queued (world.memory.quarantineDelivery id reason message now) other := by
      intro queued
      refine (queued.deleteRetry different).grow (fun entry isEntry => ?_) fun ref found isFound =>
        ⟨found, ?_, rfl⟩
      · change (Memory.advanceListCursor _ id).retryDeliveries.find? other = some entry
        rw [Memory.advanceListCursor_retryDeliveries]
        exact isEntry
      · change (Memory.advanceListCursor _ id).messages[ref]? = some found
        rw [Memory.advanceListCursor_messages]
        exact isFound
    change _ ∨ (Memory.advanceListCursor _ id).listAfterCursor < other
    rw [Memory.advanceListCursor_cursor]
    change _ ∨ max world.memory.listAfterCursor id < other
    by_cases passed : other < id
    · exact .inl (stays (leaves other passed before))
    · rcases kept.reachable other before with queued | above
      · exact .inl (stays queued)
      · right
        omega

/-- A new delivery is above the cursor. -/
theorem Kept.arrive {delivery : Delivery} (isNew : delivery.id = world.server.issued.length + 1) :
    Kept { world with server :=
      { issued := world.server.issued ++ [delivery]
        standing := Function.update world.server.standing delivery.id .pending } } where
  numbered other member := by
    simp only [List.length_append, List.length_singleton]
    rcases List.mem_append.mp member with old | new
    · have bound := kept.numbered other old
      omega
    · rw [List.mem_singleton.mp new]
      omega
  cursor := by
    have before := kept.cursor
    simp only [List.length_append, List.length_singleton]
    omega
  messages message member := by
    have before := kept.messages message member
    simp only [List.length_append, List.length_singleton]
    omega
  reachable id unfinished := by
    have cursor := kept.cursor
    by_cases same : id = delivery.id
    · right
      change world.memory.listAfterCursor < id
      omega
    · obtain ⟨held, member, isHeld⟩ := unfinished.isIssued
      have isOpen := unfinished.isOpen
      simp only [Function.update_of_ne same] at isOpen
      rcases List.mem_append.mp member with old | new
      · exact kept.reachable id ⟨⟨held, old, isHeld⟩, isOpen, unfinished.unacknowledged,
          unfinished.unquarantined⟩
      · rw [List.mem_singleton.mp new] at isHeld
        exact absurd isHeld.symm same

/-! ## Runs -/

end

/-- The options of a worker by default. -/
def sampleOptions : Options where
  recipientId := "agent_0123456789abcdef0123456789abcdef"
  pageLimit := 1
  maxDeliveryAttempts := 5
  maxAckAttempts := 8
  maxListAttempts := 3
  replyMessageId _ := "reply_0"

/-- Every request is answered; the event is a receipt. -/
def sampleChoice : Choice where
  fate := .answered
  failure := requestAborted
  event := ⟨"event_0", "room_0", "agent_1", "done", false⟩
  claimId := "claim_0"
  leaseExpiresAt := none
  found := false
  text := ""
  aborted := false
  now := "2026-01-01T00:00:00.000Z"

/-- A process runs a command alone for a number of calls. -/
def runs (process : Nat) (command : Command) (calls : Nat) : List ClientEvent :=
  .start process command :: List.replicate (calls + 1) (.resume process sampleChoice)

def isUnfinished (world : World) (id : Nat) : Bool :=
  world.server.standing id ≠ .acknowledged && !world.acknowledged.contains id &&
    !world.memory.isQuarantined id

/-- A test for `LeavesNoneBehind` when nothing is queued below the cursor. -/
def leavesNoneBehind (world : World) : Call → Bool
  | .advanceListCursor id =>
      world.server.issued.all fun delivery => id < delivery.id || !isUnfinished world delivery.id
  | .quarantineDelivery id _ _ =>
      world.server.issued.all fun delivery => id ≤ delivery.id || !isUnfinished world delivery.id
  | .deleteRetry id => !isUnfinished world id || world.memory.listAfterCursor < id
  | _ => true

def inOrder (state : ClientState) (event : ClientEvent) : Bool :=
  match Interleaving.calls state event with
  | some (_, request) => leavesNoneBehind state.world request
  | none => true

theorem Unfinished.isUnfinished (unfinished : Unfinished world id) :
    isUnfinished world id = true := by
  simp [MailboxClient.isUnfinished, unfinished.isOpen, unfinished.unacknowledged,
    unfinished.unquarantined]

end Triangle.MailboxClient
