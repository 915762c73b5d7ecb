import Triangle.Mailbox.Contract

/-!
# Transaction safety

Over any interleaving and any crashes, each request carries the identifiers of
its delivery, a delivery that needs a reply is acknowledged only when the server
holds that reply, and no two replies share a key. A command takes away only the
record of a delivery it has seen, provided `abandon` finds the record that its
command read: unlike `clear` it is not told which delivery it is about.
-/

namespace Triangle.Mailbox

open Triangle.Std Triangle.Semantics

/-- The server holds a reply. -/
def Server.Has (server : Server) (roomID : RoomId) (key : String) (eventID : EventId) : Prop :=
  ∃ event ∈ server.replies, event.roomID = roomID ∧ event.idempotencyKey = key ∧
    event.eventID = eventID

/-- The server holds the reply that a record names. -/
def Backed (server : Server) (record : OpenTransaction) : Prop :=
  ∀ eventID, record.replyEventID = some eventID →
    server.Has record.roomID record.replyIdempotencyKey eventID

section

variable (sha256Hex : String → String) (instanceID : ClientInstanceId)

/-- A request with the identifiers of its delivery, an acknowledgement that is
due, or the removal of the record of the delivery that was seen. -/
def Deed.Proper : Deed → Prop
  | .claimSent seen deliveryID claimID =>
      (∃ record, seen = some record ∧ record.deliveryID = deliveryID) ∧
        claimID = claimId sha256Hex instanceID deliveryID
  | .replySent seen roomID key => ∃ record, seen = some record ∧ record.roomID = roomID ∧
      key = replyIdempotencyKey sha256Hex instanceID record.deliveryID
  | .ackSent seen deliveryID claimID replies => ∃ record, seen = some record ∧
      record.deliveryID = deliveryID ∧ claimID = claimId sha256Hex instanceID deliveryID ∧
      (record.replyRequired = true → ∃ event ∈ replies, event.roomID = record.roomID ∧
        event.idempotencyKey = replyIdempotencyKey sha256Hex instanceID deliveryID)
  | .removed seen gone => ∃ record, seen = some record ∧ gone.deliveryID = record.deliveryID

/-- The invariant of the store, the server and a history of good deeds. -/
structure Kept (good : Deed → Prop) (world : World) : Prop where
  openGenuine : ∀ record, world.store.openFile = some record →
    Genuine sha256Hex instanceID record ∧ Backed world.server record
  readable : ∀ entry ∈ world.store.quarantine, entry.isReadable = true
  distinctKeys : (world.server.replies.map ReplyEvent.idempotencyKey).Nodup
  good : ∀ deed ∈ world.deeds, good deed

/-- What a process knows is so. -/
structure Knows (process : Nat) (world : World) (known : Knowledge) : Prop where
  seen : world.seen process = known.seen
  genuine : ∀ record, known.seen = some record →
    Genuine sha256Hex instanceID record ∧ Backed world.server record
  committed : ∀ roomID key eventID, known.committed = some (roomID, key, eventID) →
    world.server.Has roomID key eventID

end

variable {sha256Hex : String → String} {instanceID : ClientInstanceId} {world : World}
  {known : Knowledge} {process : Nat} {record : OpenTransaction} {good : Deed → Prop}

/-! ## What a call changes -/

/-- No reply is lost. -/
def Server.Grows (before after : Server) : Prop :=
  ∀ event ∈ before.replies, event ∈ after.replies

variable {roomID : RoomId} {next : OpenTransaction}

variable {before after server : Server} {key claimID : String} {deed : Deed} {other : Nat}
  {request : Call} {deliveryID : Int} {state : HelperState} {event : HelperEvent}

theorem Server.Grows.has (grows : before.Grows after) {eventID : EventId}
    (has : before.Has roomID key eventID) : after.Has roomID key eventID := by
  obtain ⟨event, member, matching⟩ := has
  exact ⟨event, grows event member, matching⟩

theorem Server.Grows.backed (grows : before.Grows after) (backed : Backed before record) :
    Backed after record :=
  fun eventID isReply => grows.has (backed eventID isReply)

/-- After a reply was sent the server has one reply more at most, and what it
reports as created it has. -/
theorem Server.sendReply_spec (server : Server) (roomID : RoomId) (key text : String)
    (newID : EventId) (distinct : (server.replies.map ReplyEvent.idempotencyKey).Nodup) :
    server.Grows (server.sendReply roomID key text newID).1 ∧
      ((server.sendReply roomID key text newID).1.replies.map ReplyEvent.idempotencyKey).Nodup ∧
      ∀ raw eventID, (server.sendReply roomID key text newID).2 = .created raw →
        EventId.ofRaw raw = some eventID →
        (server.sendReply roomID key text newID).1.Has roomID key eventID := by
  unfold Server.sendReply
  cases found : server.replies.find? fun event => event.idempotencyKey = key with
  | none =>
      have isNew : key ∉ server.replies.map ReplyEvent.idempotencyKey := by
        intro member
        obtain ⟨event, inReplies, isKey⟩ := List.mem_map.mp member
        exact List.find?_eq_none.mp found event inReplies (decide_eq_true isKey)
      refine ⟨fun event member => List.mem_append_left _ member, ?_, ?_⟩
      · rw [List.map_append, List.map_singleton]
        exact List.Nodup.append distinct (List.nodup_singleton _)
          (List.disjoint_singleton.mpr isNew)
      · intro raw eventID isCreated isEvent
        cases isCreated
        rw [EventId.ofRaw_value] at isEvent
        cases isEvent
        exact ⟨⟨roomID, key, text, newID⟩, by simp, rfl, rfl, rfl⟩
  | some event =>
      refine ⟨fun _ member => member, distinct, ?_⟩
      intro raw eventID isCreated isEvent
      dsimp only at isCreated
      by_cases same : event.roomID = roomID ∧ event.text = text
      · rw [if_pos same] at isCreated
        cases isCreated
        rw [EventId.ofRaw_value] at isEvent
        cases isEvent
        have isKey : event.idempotencyKey = key := by simpa using List.find?_some found
        exact ⟨event, List.mem_of_find?_eq_some found, same.1, isKey, rfl⟩
      · rw [if_neg same] at isCreated
        cases isCreated

theorem Server.lookupReply_has {event : ReplyEvent}
    (found : server.lookupReply roomID key = some event) : server.Has roomID key event.eventID := by
  have matching := List.find?_some found
  simp only [Bool.decide_and, Bool.and_eq_true, decide_eq_true_eq] at matching
  exact ⟨event, List.mem_of_find?_eq_some found, matching.1, matching.2, rfl⟩

theorem Kept.note (kept : Kept sha256Hex instanceID good world) (isGood : good deed) :
    Kept sha256Hex instanceID good (world.note deed) where
  openGenuine := kept.openGenuine
  readable := kept.readable
  distinctKeys := kept.distinctKeys
  good := by
    intro other member
    rcases List.mem_append.mp member with before | isNew
    · exact kept.good other before
    · rw [List.mem_singleton.mp isNew]
      exact isGood

theorem Kept.see (kept : Kept sha256Hex instanceID good world) (process : Nat)
    (record : OpenTransaction) : Kept sha256Hex instanceID good (world.see process record) :=
  ⟨kept.openGenuine, kept.readable, kept.distinctKeys, kept.good⟩

/-- A new store whose record and quarantine are in order. -/
theorem Kept.withStore (kept : Kept sha256Hex instanceID good world) {store : Store}
    (openGenuine : ∀ record, store.openFile = some record →
      Genuine sha256Hex instanceID record ∧ Backed world.server record)
    (readable : ∀ entry ∈ store.quarantine, entry.isReadable = true) :
    Kept sha256Hex instanceID good { world with store } :=
  ⟨openGenuine, readable, kept.distinctKeys, kept.good⟩

section

variable (knows : Knows sha256Hex instanceID process world known)
include knows

theorem Knows.withStore (store : Store) :
    Knows sha256Hex instanceID process { world with store } known :=
  ⟨knows.seen, knows.genuine, knows.committed⟩

theorem Knows.note (deed : Deed) : Knows sha256Hex instanceID process (world.note deed) known :=
  ⟨knows.seen, knows.genuine, knows.committed⟩

theorem Knows.see (genuine : Genuine sha256Hex instanceID record)
    (backed : Backed world.server record) :
    Knows sha256Hex instanceID process (world.see process record)
      { known with seen := some record } where
  seen := by simp [World.see]
  genuine := by
    rintro other isOther
    cases isOther
    exact ⟨genuine, backed⟩
  committed := knows.committed

end

theorem Knows.seeOther (knows : Knows sha256Hex instanceID other world known)
    (different : other ≠ process) (record : OpenTransaction) :
    Knows sha256Hex instanceID other (world.see process record) known where
  seen := by
    rw [← knows.seen]
    exact Function.update_of_ne different _ _
  genuine := knows.genuine
  committed := knows.committed

/-- What was known of a server is known of one with more replies. -/
theorem Knows.grow (knows : Knows sha256Hex instanceID process world known)
    (grows : world.server.Grows server) :
    Knows sha256Hex instanceID process { world with server } known where
  seen := knows.seen
  genuine record isRecord :=
    ⟨(knows.genuine record isRecord).1, grows.backed (knows.genuine record isRecord).2⟩
  committed roomID key eventID isReply := grows.has (knows.committed roomID key eventID isReply)

theorem settleWrite_cases (store : Store) (result : Except StoreError Store) (fate : Fate) :
    ((settleWrite store result fate).1 = store ∨ result = .ok (settleWrite store result fate).1) ∧
      ((settleWrite store result fate).2 = .ok () →
        result = .ok (settleWrite store result fate).1) := by
  cases result with
  | error problem => exact ⟨.inl rfl, nofun⟩
  | ok next => cases fate <;> simp [settleWrite]

theorem removedRecord_some {before after : Store}
    (taken : removedRecord before after = some record) :
    before.openFile = some record ∧ after.openFile = none := by
  unfold removedRecord at taken
  split at taken
  next isGone => exact ⟨taken, Option.isNone_iff_eq_none.mp isGone⟩
  next => cases taken

/-- The reply of a changed record is the one it had or the committed one. -/
theorem Advance.backed {committed : Option (RoomId × String × EventId)}
    (advance : Advance committed record next) (wasBacked : Backed server record)
    (isHeld : ∀ roomID key eventID, committed = some (roomID, key, eventID) →
      server.Has roomID key eventID) : Backed server next := by
  cases advance with
  | claimed wasPrepared => exact wasBacked
  | replied wasClaimed isCommitted =>
      rintro eventID isEvent
      cases isEvent
      exact isHeld _ _ _ isCommitted
  | failed => exact wasBacked

/-! ## One call -/

/-- What has to be shown of a call: the invariant is kept, the answer is a
possible one, and the caller knows what the answer teaches. -/
def CallSound (sha256Hex : String → String) (instanceID : ClientInstanceId)
    (good : Deed → Prop) (process : Nat) (known : Knowledge) (request : Call)
    (outcome : World × Answer request) : Prop :=
  Kept sha256Hex instanceID good outcome.1 ∧ Possible sha256Hex instanceID request outcome.2 ∧
    Knows sha256Hex instanceID process outcome.1 (learn known request outcome.2)

section

variable (kept : Kept sha256Hex instanceID good world)
  (knows : Knows sha256Hex instanceID process world known)
include kept knows

/-- A call that leaves the world as it is and teaches nothing. -/
theorem callSound_idle {answer : Answer request}
    (possible : Possible sha256Hex instanceID request answer)
    (unlearned : learn known request answer = known) :
    CallSound sha256Hex instanceID good process known request (world, answer) := by
  refine ⟨kept, possible, ?_⟩
  rw [unlearned]
  exact knows

theorem readOpen_sound (choice : Choice) :
    CallSound sha256Hex instanceID good process known .readOpen
      (perform sha256Hex instanceID process world .readOpen choice) := by
  unfold perform
  by_cases succeeds : choice.fate = .success
  · simp only [succeeds, if_true]
    cases read : world.store.readOpen sha256Hex instanceID with
    | error problem => exact callSound_idle kept knows trivial rfl
    | ok found =>
        cases found with
        | none => exact callSound_idle kept knows trivial rfl
        | some record =>
            obtain ⟨isOpen, wellFormed, isInstance⟩ := Store.readOpen_some read
            obtain ⟨genuine, backed⟩ := kept.openGenuine record isOpen
            exact ⟨kept.see process record, genuine, knows.see genuine backed⟩
  · simp only [succeeds, if_false]
    exact callSound_idle kept knows trivial rfl

/-- A write of a genuine record that the server backs. -/
theorem write_sound {result : Except StoreError Store}
    (written : ∀ store, result = .ok store → store = { world.store with openFile := some next })
    (genuine : Genuine sha256Hex instanceID next) (backed : Backed world.server next)
    (fate : Fate) :
    Kept sha256Hex instanceID good { world with store := (settleWrite world.store result fate).1 } ∧
      Knows sha256Hex instanceID process
        { world with store := (settleWrite world.store result fate).1 } known ∧
      Knows sha256Hex instanceID process
        ({ world with store := (settleWrite world.store result fate).1 }.see process next)
        { known with seen := some next } := by
  refine ⟨?_, knows.withStore _, (knows.withStore _).see genuine backed⟩
  rcases (settleWrite_cases world.store result fate).1 with unchanged | changed
  · rw [unchanged]
    exact kept
  · rw [written _ changed]
    refine kept.withStore ?_ kept.readable
    rintro record isRecord
    cases isRecord
    exact ⟨genuine, backed⟩

theorem prepare_sound (allowed : Allowed sha256Hex instanceID known (.prepare next))
    (choice : Choice) :
    CallSound sha256Hex instanceID good process known (.prepare next)
      (perform sha256Hex instanceID process world (.prepare next) choice) := by
  obtain ⟨genuine, isPrepared⟩ := allowed
  have unreplied := (genuine.1.unreplied (by rw [isPrepared]; decide)).1
  have backed : Backed world.server next := by
    intro eventID isReply
    rw [unreplied] at isReply
    cases isReply
  obtain ⟨keptAfter, knowsAfter, knowsSeen⟩ := write_sound kept knows
    (fun store prepared => (Store.prepare_ok prepared).2) genuine backed choice.fate
  unfold perform
  dsimp only
  split
  next isOk =>
    refine ⟨keptAfter.see process next, trivial, ?_⟩
    rw [isOk]
    exact knowsSeen
  next isError =>
    refine ⟨keptAfter, trivial, ?_⟩
    rw [isError]
    exact knowsAfter

theorem replace_sound (allowed : Allowed sha256Hex instanceID known (.replace next))
    (choice : Choice) :
    CallSound sha256Hex instanceID good process known (.replace next)
      (perform sha256Hex instanceID process world (.replace next) choice) := by
  obtain ⟨genuine, record, isSeen, advance⟩ := allowed
  have backed := advance.backed (knows.genuine record isSeen).2 knows.committed
  obtain ⟨keptAfter, knowsAfter, knowsSeen⟩ := write_sound kept knows
    (fun store replaced => (Store.replace_ok replaced).choose_spec.2.2) genuine backed choice.fate
  unfold perform
  dsimp only
  split
  next isOk =>
    refine ⟨keptAfter.see process next, trivial, ?_⟩
    rw [isOk]
    exact knowsSeen
  next isError =>
    refine ⟨keptAfter, trivial, ?_⟩
    rw [isError]
    exact knowsAfter

end

/-- A store operation that may take the open record away. -/
theorem removal_sound {store : Store} (kept : Kept sha256Hex instanceID good world)
    (knows : Knows sha256Hex instanceID process world known)
    (openKept : ∀ record, store.openFile = some record → world.store.openFile = some record)
    (readable : ∀ entry ∈ store.quarantine, entry.isReadable = true)
    (isGood : ∀ removed, world.store.openFile = some removed → store.openFile = none →
      good (.removed (world.seen process) removed)) :
    let next := match removedRecord world.store store with
      | some record => { world with store }.note (.removed (world.seen process) record)
      | none => { world with store }
    Kept sha256Hex instanceID good next ∧ Knows sha256Hex instanceID process next known := by
  have keptAfter : Kept sha256Hex instanceID good { world with store } :=
    kept.withStore (fun record isRecord => kept.openGenuine record (openKept record isRecord))
      readable
  dsimp only
  cases taken : removedRecord world.store store with
  | none => exact ⟨keptAfter, knows.withStore store⟩
  | some removed =>
      obtain ⟨wasOpen, isGone⟩ := removedRecord_some taken
      exact ⟨keptAfter.note (isGood removed wasOpen isGone), (knows.withStore store).note _⟩

theorem clear_sound {expected : Option Int} (kept : Kept sha256Hex instanceID good world)
    (covers : ∀ deed, deed.Proper sha256Hex instanceID → good deed)
    (knows : Knows sha256Hex instanceID process world known)
    (allowed : Allowed sha256Hex instanceID known (.clear expected)) (choice : Choice) :
    CallSound sha256Hex instanceID good process known (.clear expected)
      (perform sha256Hex instanceID process world (.clear expected) choice) := by
  obtain ⟨record, isSeen, rfl⟩ := allowed
  have cases := (settleWrite_cases world.store
    (world.store.clear sha256Hex instanceID (some record.deliveryID)) choice.fate).1
  have sound := @removal_sound _ _ world known process good
    (settleWrite world.store (world.store.clear sha256Hex instanceID (some record.deliveryID))
      choice.fate).1 kept knows
    (by
      rcases cases with unchanged | cleared
      · rw [unchanged]
        exact fun _ isRecord => isRecord
      · obtain ⟨_, -, -, isNext⟩ := Store.clear_ok cleared
        rw [isNext]
        intro other isOther
        cases isOther)
    (by
      rcases cases with unchanged | cleared
      · rw [unchanged]
        exact kept.readable
      · obtain ⟨_, -, -, isNext⟩ := Store.clear_ok cleared
        rw [isNext]
        exact kept.readable)
    (by
      intro removed wasOpen isGone
      rcases cases with unchanged | cleared
      · rw [unchanged, wasOpen] at isGone
        cases isGone
      · obtain ⟨current, isOpen, sameDelivery, -⟩ := Store.clear_ok cleared
        rw [wasOpen] at isOpen
        cases isOpen
        exact covers _ ⟨record, knows.seen.trans isSeen, sameDelivery _ rfl⟩)
  exact ⟨sound.1, trivial, sound.2⟩

theorem settleAbandon_cases (store : Store) (result : Except StoreError Quarantined) (fate : Fate) :
    (settleAbandon store result fate).1 = store ∨
      ∃ entry, result = .ok entry ∧
        ((settleAbandon store result fate).1 = store.withQuarantined entry ∨
          (settleAbandon store result fate).1 =
            { store.withQuarantined entry with openFile := none }) := by
  cases result with
  | error problem => exact .inl rfl
  | ok entry => cases fate <;> simp [settleAbandon]

section

variable (kept : Kept sha256Hex instanceID good world)
include kept

theorem abandon_sound (knows : Knows sha256Hex instanceID process world known)
    (isGood : ∀ current, world.store.openFile = some current →
      good (.removed (world.seen process) current)) (choice : Choice) :
    CallSound sha256Hex instanceID good process known .abandon
      (perform sha256Hex instanceID process world .abandon choice) := by
  have cases := settleAbandon_cases world.store
    (world.store.quarantineEntry sha256Hex instanceID choice.now) choice.fate
  have sound := @removal_sound _ _ world known process good
    (settleAbandon world.store (world.store.quarantineEntry sha256Hex instanceID choice.now)
      choice.fate).1 kept knows
    (by
      rcases cases with unchanged | ⟨entry, -, isNext | isNext⟩
      · rw [unchanged]
        exact fun _ isRecord => isRecord
      · rw [isNext]
        exact fun _ isRecord => isRecord
      · rw [isNext]
        intro other isOther
        cases isOther)
    (by
      have readable : ∀ entry, world.store.quarantineEntry sha256Hex instanceID choice.now =
          .ok entry → ∀ other ∈ world.store.quarantine ++ [entry], other.isReadable = true := by
        intro entry written other member
        rcases List.mem_append.mp member with before | isNew
        · exact kept.readable other before
        · obtain ⟨current, -, wellFormed, -, isEntry⟩ := Store.quarantineEntry_ok written
          rw [List.mem_singleton.mp isNew, isEntry]
          exact Store.correlationOf_isReadable wellFormed choice.now
      rcases cases with unchanged | ⟨entry, written, isNext | isNext⟩
      · rw [unchanged]
        exact kept.readable
      · rw [isNext]
        exact readable entry written
      · rw [isNext]
        exact readable entry written)
    (fun removed wasOpen _ => isGood removed wasOpen)
  exact ⟨sound.1, trivial, sound.2⟩

section

variable (covers : ∀ deed, deed.Proper sha256Hex instanceID → good deed)
include covers

theorem claim_sound (knows : Knows sha256Hex instanceID process world known)
    (allowed : Allowed sha256Hex instanceID known (.claim deliveryID claimID)) (choice : Choice) :
    CallSound sha256Hex instanceID good process known (.claim deliveryID claimID)
      (perform sha256Hex instanceID process world (.claim deliveryID claimID) choice) := by
  obtain ⟨record, isSeen, rfl, rfl⟩ := allowed
  obtain ⟨⟨⟨-, derived, -⟩, isInstance⟩, -⟩ := knows.genuine record isSeen
  refine ⟨kept.note (covers _ ⟨⟨record, knows.seen.trans isSeen, rfl⟩, ?_⟩), trivial, knows.note _⟩
  rw [derived.1, isInstance]

theorem acknowledge_sound (knows : Knows sha256Hex instanceID process world known)
    (allowed : Allowed sha256Hex instanceID known (.acknowledge deliveryID claimID))
    (choice : Choice) :
    CallSound sha256Hex instanceID good process known (.acknowledge deliveryID claimID)
      (perform sha256Hex instanceID process world (.acknowledge deliveryID claimID) choice) := by
  obtain ⟨record, isSeen, rfl, rfl, answered⟩ := allowed
  obtain ⟨⟨⟨fields, derived, consistent⟩, isInstance⟩, backed⟩ := knows.genuine record isSeen
  refine ⟨kept.note (covers _ ⟨record, knows.seen.trans isSeen, rfl, ?_, ?_⟩), trivial,
    knows.note _⟩
  · rw [derived.1, isInstance]
  · intro required
    -- A replied record names its reply, and the server holds what a record names.
    have wellFormed : record.WellFormed sha256Hex := ⟨fields, derived, consistent⟩
    obtain ⟨eventID, isReply⟩ := wellFormed.replied (answered required)
    obtain ⟨event, member, sameRoom, sameKey, -⟩ := backed eventID isReply
    exact ⟨event, member, sameRoom, by rw [sameKey, derived.2.1, isInstance]⟩

theorem sendReply_sound {key text : String} {inReplyTo : Option EventId}
    (knows : Knows sha256Hex instanceID process world known)
    (allowed : Allowed sha256Hex instanceID known (.sendReply roomID key text inReplyTo))
    (choice : Choice) :
    CallSound sha256Hex instanceID good process known (.sendReply roomID key text inReplyTo)
      (perform sha256Hex instanceID process world (.sendReply roomID key text inReplyTo)
        choice) := by
  obtain ⟨record, isSeen, rfl, rfl⟩ := allowed
  obtain ⟨⟨⟨-, derived, -⟩, isInstance⟩, -⟩ := knows.genuine record isSeen
  have noted : Kept sha256Hex instanceID good (world.note
      (.replySent (world.seen process) record.roomID record.replyIdempotencyKey)) := by
    refine kept.note (covers _ ⟨record, knows.seen.trans isSeen, rfl, ?_⟩)
    rw [derived.2.1, isInstance]
  obtain ⟨grows, distinct, created⟩ := world.server.sendReply_spec record.roomID
    record.replyIdempotencyKey text choice.newEventID kept.distinctKeys
  have keptAfter : Kept sha256Hex instanceID good { world.note
      (.replySent (world.seen process) record.roomID record.replyIdempotencyKey) with
        server := (world.server.sendReply record.roomID record.replyIdempotencyKey text
          choice.newEventID).1 } :=
    ⟨fun other isOpen => ⟨(noted.openGenuine other isOpen).1,
      grows.backed (noted.openGenuine other isOpen).2⟩, noted.readable, distinct, noted.good⟩
  have knowsAfter := (knows.note
    (.replySent (world.seen process) record.roomID record.replyIdempotencyKey)).grow grows
  unfold perform
  dsimp only
  cases fate : choice.fate with
  | success =>
      refine ⟨keptAfter, trivial, ?_⟩
      cases answer : (world.server.sendReply record.roomID record.replyIdempotencyKey text
          choice.newEventID).2 with
      | idempotencyConflict => exact knowsAfter
      | created raw =>
          refine ⟨knowsAfter.seen, knowsAfter.genuine, ?_⟩
          intro roomID key eventID isReply
          simp only [learn, committedReply, Option.bind_some, Option.map_eq_some_iff,
            Prod.mk.injEq] at isReply
          obtain ⟨_, isEvent, rfl, rfl, rfl⟩ := isReply
          exact created raw _ answer isEvent
  | failAfter => exact ⟨keptAfter, trivial, knowsAfter⟩
  | failBefore | failMidway => exact ⟨noted, trivial, knows.note _⟩

end

theorem lookup_sound (knows : Knows sha256Hex instanceID process world known) (choice : Choice) :
    CallSound sha256Hex instanceID good process known (.lookupReplyEventID roomID key)
      (perform sha256Hex instanceID process world (.lookupReplyEventID roomID key) choice) := by
  unfold perform
  by_cases succeeds : choice.fate = .success
  · simp only [succeeds, if_true]
    refine ⟨kept, trivial, knows.seen, knows.genuine, ?_⟩
    intro room other eventID isReply
    simp only [learn, committedReply, Option.map_eq_some_iff, Option.bind_eq_some_iff,
      Prod.mk.injEq] at isReply
    obtain ⟨_, ⟨raw, isRaw, isEvent⟩, rfl, rfl, rfl⟩ := isReply
    by_cases finds : choice.lookupFinds = true
    · rw [if_pos finds, Option.map_eq_some_iff] at isRaw
      obtain ⟨event, found, rfl⟩ := isRaw
      rw [EventId.ofRaw_value] at isEvent
      cases isEvent
      exact Server.lookupReply_has found
    · rw [if_neg finds] at isRaw
      cases isRaw
  · simp only [succeeds, if_false]
    exact callSound_idle kept knows trivial rfl

/-- Every allowed call is sound when proper deeds are good and the removal by
`abandon` is. -/
theorem perform_sound (covers : ∀ deed, deed.Proper sha256Hex instanceID → good deed)
    (knows : Knows sha256Hex instanceID process world known)
    (allowed : Allowed sha256Hex instanceID known request)
    (isGood : request = .abandon → ∀ current, world.store.openFile = some current →
      good (.removed (world.seen process) current)) (choice : Choice) :
    CallSound sha256Hex instanceID good process known request
      (perform sha256Hex instanceID process world request choice) := by
  cases request with
  | readOpen => exact readOpen_sound kept knows choice
  | prepare transaction => exact prepare_sound kept knows allowed choice
  | replace transaction => exact replace_sound kept knows allowed choice
  | clear expected => exact clear_sound kept covers knows allowed choice
  | abandon => exact abandon_sound kept knows (isGood rfl) choice
  | listQuarantined | now | listPendingCandidates => exact callSound_idle kept knows trivial rfl
  | claim deliveryID claimID => exact claim_sound kept covers knows allowed choice
  | sendReply roomID key text inReplyTo => exact sendReply_sound kept covers knows allowed choice
  | lookupReplyEventID roomID key => exact lookup_sound kept knows choice
  | acknowledge deliveryID claimID => exact acknowledge_sound kept covers knows allowed choice

end

/-- A call of one process takes nothing from what another knows. -/
theorem perform_others (different : other ≠ process) (kept : Kept sha256Hex instanceID good world)
    (knows : Knows sha256Hex instanceID other world known) (choice : Choice) :
    Knows sha256Hex instanceID other (perform sha256Hex instanceID process world request choice).1
      known := by
  cases request with
  | readOpen =>
      unfold perform
      dsimp only
      split
      · exact knows.seeOther different _
      · exact knows
  | prepare | replace =>
      unfold perform
      dsimp only
      split
      · exact (knows.withStore _).seeOther different _
      · exact knows.withStore _
  | clear | abandon =>
      unfold perform
      dsimp only
      split
      · exact (knows.withStore _).note _
      · exact knows.withStore _
  | listQuarantined | now | listPendingCandidates => exact knows
  | claim | acknowledge => exact knows.note _
  | sendReply roomID key text inReplyTo =>
      have grows := (world.server.sendReply_spec roomID key text choice.newEventID
        kept.distinctKeys).1
      unfold perform
      dsimp only
      cases choice.fate with
      | success | failAfter => exact (knows.note _).grow grows
      | failBefore | failMidway => exact knows.note _
  | lookupReplyEventID roomID key => exact knows

/-! ## Runs -/

variable (sha256Hex instanceID good) in
/-- The invariant of the helper processes. -/
abbrev HelpersSound (state : HelperState) : Prop :=
  Interleaving.Sound (Allowed sha256Hex instanceID) (Possible sha256Hex instanceID) learn
    (Kept sha256Hex instanceID good) (Knows sha256Hex instanceID) state

/-- One event, under a condition that makes the removal by `abandon` good. -/
theorem helpersSound_step {condition : HelperState → HelperEvent → Prop}
    (covers : ∀ deed, deed.Proper sha256Hex instanceID → good deed)
    (isGood : ∀ state process choice read next, condition state (.resume process choice) →
      state.running process = some (.call .abandon next) → state.world.seen process = some read →
      ∀ current, state.world.store.openFile = some current →
        good (.removed (state.world.seen process) current))
    {state : HelperState} {event : HelperEvent} (meets : condition state event) (sound : HelpersSound sha256Hex instanceID good state) :
    HelpersSound sha256Hex instanceID good ((helpers sha256Hex instanceID).step state event) := by
  refine Interleaving.Sound.step Knowledge.nothing (fun command => code_meets command) ?_ ?_ ?_ ?_
    ?_ meets sound
  · intro process world kept
    exact ⟨kept.openGenuine, kept.readable, kept.distinctKeys, kept.good⟩
  · intro process world _
    refine ⟨Function.update_self _ _ _, ?_, ?_⟩
    · intro record isSeen
      cases isSeen
    · intro roomID key eventID isReply
      cases isReply
  · intro process other world known different knows
    refine ⟨?_, knows.genuine, knows.committed⟩
    rw [← knows.seen]
    exact Function.update_of_ne different _ _
  · intro state process request next choice known meets running kept knows allowed
    refine perform_sound kept covers knows allowed ?_ choice
    rintro rfl
    obtain ⟨read, isSeen⟩ := allowed
    exact isGood state process choice read next meets running (knows.seen.trans isSeen)
  · intro state process other request next choice known otherKnown _ _ different kept _ _ knows
    exact perform_others different kept knows choice

theorem helpersSound_initial :
    HelpersSound sha256Hex instanceID good (helperMachine sha256Hex instanceID).initial := by
  refine ⟨⟨?_, ?_, List.nodup_nil, ?_⟩, ?_⟩
  · intro record isOpen
    cases isOpen
  · intro entry member
    cases member
  · intro deed member
    cases member
  · intro process program isRunning
    cases isRunning

/-- Without a condition on the removals the rest of the invariant is kept. -/
theorem helpersSound_step_any (sound : HelpersSound sha256Hex instanceID (fun _ => True) state) :
    HelpersSound sha256Hex instanceID (fun _ => True)
      ((helpers sha256Hex instanceID).step state event) :=
  @helpersSound_step _ _ _ (fun _ _ => True) (fun _ _ => trivial)
    (fun _ _ _ _ _ _ _ _ _ _ => trivial) _ _ trivial sound

theorem helpersSound_run (events : List HelperEvent) :
    HelpersSound sha256Hex instanceID (fun _ => True)
      ((helperMachine sha256Hex instanceID).run events) :=
  @Machine.invariant_runFrom _ _ _ (HelpersSound sha256Hex instanceID (fun _ => True))
    (fun _ _ sound => helpersSound_step_any sound) _ helpersSound_initial events

/-- The instance of the profile `mailbox`. -/
def sampleInstance : ClientInstanceId where
  value := "f60589223b4d21d5815ec5301c853cfe204774b7bc930fcd971e461ad5040dbc"
  valid := by decide

/-- SHA-256 on the identifiers of the deliveries 41 and 42 of that instance. -/
def sampleDigest (text : String) : String :=
  let framed (domain delivery : String) : String :=
    domain ++ "\x00" ++ sampleInstance.value ++ "\x00" ++ delivery
  if text = framed "triangle-claim-v1" "41" then
    "719a7ae30db6d26648245f12197237ef0b92eb7e5c4380c2e6db600d225c4345"
  else if text = framed "triangle-reply-v1" "41" then
    "0f7745eb5800f32f567531d0c6bfdb32cb7be34b8052702835c034617bf50bdd"
  else if text = framed "triangle-claim-v1" "42" then
    "a7df80e98f8ad833be30a401f3938be3063306855b00d205c6465d637da5ab67"
  else if text = framed "triangle-reply-v1" "42" then
    "28a5ca40acfbf7f4f10bb670368f793a765ff88c5527e63321ebabdeb1805fac"
  else ""

def sampleRoom : RoomId where
  value := "room_0123456789abcdef0123456789abcdef"
  valid := by decide

def sampleEvent : EventId where
  value := "event_cccccccccccccccccccccccccccccccc"
  valid := by decide

/-- A call that succeeds; the server grants the claim of delivery 41. -/
def sampleChoice : Choice where
  fate := .success
  now := "2026-01-01T00:00:00.000Z"
  candidates := []
  claimResult := ⟨true, claimId sampleDigest sampleInstance 41, false⟩
  newEventID := sampleEvent
  lookupFinds := true

/-- A process starts a command and makes its first calls. -/
def runs (process : Nat) (command : Command) (calls : Nat) : List HelperEvent :=
  .start process command :: List.replicate calls (.resume process sampleChoice)

end Triangle.Mailbox
