import Triangle.PeerDrain.SendRequest
import Triangle.PeerEngine.PlainRuntime
import Triangle.PeerEngine.Remembered
import Triangle.Std.Outcome

/-!
# The idempotency window of a request

The engine forgets a closed message seven days after it was closed, and
`sendRequest` lets a message id through for seven days after its row was
inserted. As long as the engine handles each `send` of the id before the seven
days are over, it still has the record of the first one, so it queues the
message once.

At the end of the window the two do not meet. The service refuses when more
than seven days have passed and the engine forgets when seven days have passed,
so at that millisecond, and for as long as a `send` is on its way, an id can be
let through that the engine has forgotten.
-/

namespace Triangle.PeerDrain

open Triangle.Std
open Triangle.Semantics (Machine)
open Triangle.PeerEngine (EngineConfig EnqueueError EnqueueOutcome Io Journal JournalEntry
  JournalError JournalLimits JournalRuntime Operation PeerMessage Recalls Timing Tracks sendMessage)

section

variable {Addr : Type} (host : RequestHost Addr) (messageId : String)

/-- The row of the id is not swept, and only `sendRequest` sends the id. -/
def Undisturbed (world : RequestWorld Addr) : RequestLabel Addr → Prop
  | .sweep waited => ∀ row ∈ world.outbound.find? messageId,
      row.isSwept (world.clock + waited) = false
  | .engineCall _ (.enqueueOutbound other ..) => other ≠ messageId
  | _ => True

/-- The engine handles a `send` of the id less than seven days after the row of
the id was inserted. -/
def InTime (world : RequestWorld Addr) : RequestLabel Addr → Prop
  | .handle timing position => ∀ frame ∈ world.frames[position]?, frame.messageId = messageId →
      ∀ row ∈ world.outbound.find? messageId,
        (timing.io world.clock).now < row.createdAt + tombstoneWindowMs
  | _ => True

instance (world : RequestWorld Addr) (label : RequestLabel Addr) :
    Decidable (Undisturbed messageId world label) := by
  unfold Undisturbed
  split <;> infer_instance

instance (world : RequestWorld Addr) (label : RequestLabel Addr) :
    Decidable (InTime messageId world label) := by
  unfold InTime
  split <;> infer_instance

/-- When the row of the id was inserted. -/
def RequestWorld.admittedAt (world : RequestWorld Addr) : Option Nat :=
  (world.outbound.find? messageId).map Outbound.createdAt

/-- The engine's journal is covered by its file; an id without a row was never
sent; an id that was queued once is remembered since its row was inserted. -/
structure Windowed (world : RequestWorld Addr) : Prop where
  tracks : ∃ pending, Tracks host.engine.runtime host.engine.limits world.clock pending world.engine
  unsent : world.admittedAt messageId = none →
    messageId ∉ world.news ∧ ∀ frame ∈ world.frames, frame.messageId ≠ messageId
  begun : ∀ since ∈ world.admittedAt messageId, since ≤ world.clock
  once : world.news.count messageId ≤ 1
  recalled : messageId ∈ world.news → ∀ since ∈ world.admittedAt messageId, ∃ pending,
    Recalls host.engine.runtime host.engine.limits messageId since world.clock pending world.engine

variable {host messageId}

theorem RequestHost.retentionMs_eq : host.engine.limits.retentionMs = tombstoneWindowMs := by
  rw [JournalLimits.retentionMs, host.default_retention]
  rfl

section

variable {world after : RequestWorld Addr}

/-- What leaves the engine and the time of the row alone keeps the window. -/
theorem Windowed.quiet (windowed : Windowed host messageId world)
    (engine : after.engine = world.engine) (news : after.news = world.news)
    (later : world.clock ≤ after.clock) (frames : ∀ frame ∈ after.frames, frame ∈ world.frames)
    (admittedAt : after.admittedAt messageId = world.admittedAt messageId) :
    Windowed host messageId after := by
  constructor
  · obtain ⟨pending, tracks⟩ := windowed.tracks
    rw [engine]
    exact ⟨pending, tracks.mono later⟩
  · intro isNone
    obtain ⟨notNew, notSent⟩ := windowed.unsent (admittedAt ▸ isNone)
    exact ⟨news ▸ notNew, fun frame member => notSent frame (frames frame member)⟩
  · intro since isSince
    exact Nat.le_trans (windowed.begun since (admittedAt ▸ isSince)) later
  · rw [news]
    exact windowed.once
  · intro isNew since isSince
    obtain ⟨pending, recalls⟩ := windowed.recalled (news ▸ isNew) since (admittedAt ▸ isSince)
    rw [engine]
    exact ⟨pending, recalls.mono later⟩

variable {outbound : Table Outbound.messageId} {now : Nat} {call : RequestCall}
  {times : RequestTimes} {frame : SendFrame Addr}

/-- A statement that sets other columns keeps the time of the row. -/
theorem admittedAt_update {selected : Outbound → Bool} {change : Outbound → Outbound}
    (keeps : ∀ row, selected row = true → (change row).messageId = row.messageId)
    (sameTime : ∀ row, (change row).createdAt = row.createdAt) :
    ((outbound.update selected change keeps).find? messageId).map Outbound.createdAt =
      (outbound.find? messageId).map Outbound.createdAt := by
  rw [Table.find?_update, Option.map_map]
  congr 1
  funext row
  simp only [Function.comp_apply]
  split
  · exact sameTime row
  · rfl

theorem admittedAt_setRequestState {named state : String} :
    ((setRequestState outbound named state now).find? messageId).map Outbound.createdAt =
      (outbound.find? messageId).map Outbound.createdAt :=
  admittedAt_update _ (fun _ => rfl)

theorem admittedAt_closeRequest {named reason : String} :
    ((closeRequest outbound named reason now).find? messageId).map Outbound.createdAt =
      (outbound.find? messageId).map Outbound.createdAt :=
  admittedAt_update _ (fun _ => rfl)

theorem admittedAt_writeAfterSend {aborted : Bool} {error : Option String} :
    ((writeAfterSend outbound call now aborted error).1.find? messageId).map Outbound.createdAt =
      (outbound.find? messageId).map Outbound.createdAt := by
  unfold writeAfterSend
  split_ifs
  · rfl
  · rfl
  · split
    · exact admittedAt_setRequestState
    · exact admittedAt_setRequestState
    · rfl

theorem admittedAt_writeAfterStatus {answer : Option MessageStatus} :
    ((writeAfterStatus host outbound call now answer).find? messageId).map Outbound.createdAt =
      (outbound.find? messageId).map Outbound.createdAt := by
  unfold writeAfterStatus
  split
  · rfl
  · split_ifs
    · rfl
    · exact admittedAt_update _ (fun _ => rfl)
    · exact admittedAt_setRequestState
    · rfl

variable {clock waited : Nat} {row : Outbound}

/-- What `sendRequest` does when it goes on to its `send`: the row of its id was
there and stays, or it is inserted now. -/
theorem sendRequest_ok {outbound admitted : Table Outbound.messageId}
    (isOk : sendRequest host outbound call clock times = .ok (admitted, frame)) :
    frame.messageId = call.messageId ∧
      (admitted = outbound ∧ (outbound.find? call.messageId).isSome = true ∨
        ∃ row free, admitted = outbound.insert row free ∧ row.messageId = call.messageId ∧
          row.createdAt = clock + times.waited + times.toAdmit) := by
  unfold sendRequest at isOk
  obtain ⟨route, -, isOk⟩ := (bind_ok _).mp isOk
  obtain ⟨rows, isAdmitted, isOk⟩ := (bind_ok _).mp isOk
  cases isOk
  refine ⟨rfl, ?_⟩
  unfold admitRequest at isAdmitted
  split at isAdmitted
  next existing found =>
    split_ifs at isAdmitted
    cases isAdmitted
    exact .inl ⟨rfl, by rw [found]; rfl⟩
  next free =>
    cases isAdmitted
    exact .inr ⟨_, free, rfl, rfl, rfl⟩

/-- A new `sendRequest` keeps the window. -/
theorem Windowed.request (windowed : Windowed host messageId world)
    {admitted : Table Outbound.messageId}
    (isOk : sendRequest host world.outbound call world.clock times = .ok (admitted, frame)) :
    Windowed host messageId
      { world with
        outbound := admitted
        clock := world.clock + times.waited + times.toAdmit + times.toUpdate
        frames := world.frames ++ [frame]
        turns := world.turns ++ [⟨call, .send⟩] } := by
  obtain ⟨named, ⟨rfl, present⟩ | ⟨row, free, rfl, rowNamed, rowTime⟩⟩ := sendRequest_ok isOk
  · obtain ⟨existing, found⟩ := Option.isSome_iff_exists.mp present
    have base := @Windowed.quiet _ host messageId world
      { world with clock := world.clock + times.waited + times.toAdmit + times.toUpdate }
      windowed rfl rfl (by dsimp only; omega) (fun _ member => member) rfl
    refine { base with unsent := fun isNone => ?_ }
    obtain ⟨notNew, notSent⟩ := base.unsent isNone
    refine ⟨notNew, fun other member => ?_⟩
    rcases List.mem_append.mp member with before | new
    · exact notSent other before
    · rw [List.mem_singleton.mp new, named]
      rintro rfl
      simp [RequestWorld.admittedAt, found] at isNone
  · obtain ⟨pending, tracks⟩ := windowed.tracks
    have later : world.clock ≤ world.clock + times.waited + times.toAdmit + times.toUpdate := by
      omega
    by_cases isCall : call.messageId = messageId
    · -- The row is new, so the id was never sent before.
      have wasNone : world.admittedAt messageId = none := by
        rw [RequestWorld.admittedAt, ← isCall, ← rowNamed, free]
        rfl
      obtain ⟨notNew, notSent⟩ := windowed.unsent wasNone
      have isAdmitted : (world.outbound.insert row free).find? messageId = some row := by
        rw [Table.find?_insert, if_pos (isCall.symm.trans rowNamed.symm)]
      refine ⟨⟨pending, tracks.mono later⟩, fun isNone => ?_, fun since isSince => ?_,
        windowed.once, fun isNew => absurd isNew notNew⟩
      · simp [RequestWorld.admittedAt, isAdmitted] at isNone
      · simp only [RequestWorld.admittedAt, isAdmitted, Option.map_some, Option.mem_def,
          Option.some.injEq] at isSince
        dsimp only
        omega
    · have sameTime : ((world.outbound.insert row free).find? messageId).map Outbound.createdAt =
          world.admittedAt messageId := by
        rw [Table.find?_insert, if_neg (fun isRow => isCall (rowNamed.symm.trans isRow.symm))]
        rfl
      have base := @Windowed.quiet _ host messageId world
        { world with
          outbound := world.outbound.insert row free
          clock := world.clock + times.waited + times.toAdmit + times.toUpdate }
        windowed rfl rfl later (fun _ member => member) sameTime
      refine { base with unsent := fun isNone => ?_ }
      obtain ⟨notNew, notSent⟩ := base.unsent isNone
      refine ⟨notNew, fun other member => ?_⟩
      rcases List.mem_append.mp member with before | new
      · exact notSent other before
      · rw [List.mem_singleton.mp new, named]
        exact isCall

/-- A repeated call whose arguments pass is refused only when its row is closed or
past the window. -/
theorem sendRequest_refused {refusal : RequestRefusal}
    (found : outbound.find? call.messageId = some row)
    (samePeer : row.toEndpointId = call.toEndpointId)
    (sameHash : row.payloadHash = host.digest (requestEnvelope call))
    (isRefused : sendRequest host outbound call clock times = .error refusal) :
    refusal = .correlationClosed ∨ refusal = .retryWindowExpired ∨
      checkRequest host call (clock + times.waited) = .error refusal := by
  unfold sendRequest at isRefused
  dsimp only at isRefused
  cases isChecked : checkRequest host call (clock + times.waited) with
  | error checked =>
      rw [isChecked] at isRefused
      cases isRefused
      exact .inr (.inr rfl)
  | ok route =>
      rw [isChecked] at isRefused
      cases isAdmitted : admitRequest outbound call (host.digest (requestEnvelope call))
          (clock + times.waited + times.toAdmit)
          (clock + times.waited + times.toAdmit + times.toUpdate) with
      | ok admitted => simp [bind, Except.bind, isAdmitted, pure, Except.pure] at isRefused
      | error refused =>
          simp only [bind, Except.bind, isAdmitted, Except.error.injEq] at isRefused
          subst isRefused
          unfold admitRequest at isAdmitted
          split at isAdmitted
          next existing isExisting =>
            rw [found, Option.some.injEq] at isExisting
            subst isExisting
            rw [if_neg (by simp [samePeer, sameHash])] at isAdmitted
            split_ifs at isAdmitted
            · exact .inl (Except.error.inj isAdmitted).symm
            · exact .inr (.inl (Except.error.inj isAdmitted).symm)
          · cases isAdmitted

/-- The retention sweep keeps the window of an id whose row it leaves. -/
theorem admittedAt_sweep (undisturbed : Undisturbed messageId world (.sweep waited)) :
    ((world.outbound.delete (Outbound.isSwept (world.clock + waited))).find? messageId).map
      Outbound.createdAt = world.admittedAt messageId := by
  rw [Table.find?_delete, RequestWorld.admittedAt]
  cases found : world.outbound.find? messageId with
  | none => rfl
  | some row =>
      have kept := undisturbed row found
      simp [kept]

section

variable (windowed : Windowed host messageId world)
include windowed

/-- While the window is open, the engine has the record of an id it queued. -/
theorem Windowed.known (isNew : messageId ∈ world.news) (later : world.clock ≤ now)
    (found : world.outbound.find? messageId = some row)
    (inTime : now < row.createdAt + tombstoneWindowMs) :
    ∃ record, world.engine.index.outbound.find? messageId = some record := by
  obtain ⟨pending, recalls⟩ := windowed.recalled isNew row.createdAt
    (by rw [RequestWorld.admittedAt, found]; rfl)
  obtain ⟨record, isRecord, -⟩ := recalls.remembers
    (by rw [RequestHost.retentionMs_eq]; omega)
  exact ⟨record, isRecord⟩

/-- An id that is sent has a row. -/
theorem Windowed.hasRow (member : frame ∈ world.frames) (named : frame.messageId = messageId) :
    ∃ row, world.outbound.find? messageId = some row := by
  cases found : world.outbound.find? messageId with
  | some row => exact ⟨row, rfl⟩
  | none =>
      have isNone : world.admittedAt messageId = none := by rw [RequestWorld.admittedAt, found]; rfl
      exact absurd named ((windowed.unsent isNone).2 frame member)

/-- A restart of the engine keeps the window. -/
theorem Windowed.restart {reopened : Journal Addr}
    (isReopened : Journal.openWith host.engine.runtime host.engine.limits (some world.engine.file)
      (world.clock + waited) .replaced = .ok reopened) :
    Windowed host messageId
      { world with engine := reopened, clock := world.clock + waited } := by
  have later : world.clock ≤ world.clock + waited := Nat.le_add_right _ _
  obtain ⟨pending, tracks⟩ := windowed.tracks
  obtain ⟨found, disk, isFound, restarted, -⟩ := (tracks.mono later).restart
  rw [isReopened, Except.ok.injEq] at isFound
  subst isFound
  refine ⟨⟨none, restarted⟩, windowed.unsent,
    fun since isSince => Nat.le_trans (windowed.begun since isSince) later, windowed.once,
    fun isNew since isSince => ?_⟩
  obtain ⟨kept, recalls⟩ := windowed.recalled isNew since isSince
  exact ⟨none, (recalls.mono later).restart isReopened⟩

end

variable [DecidableEq Addr]

/-- `send_message` enqueues, or its checks stop it. -/
theorem sendMessage_enqueues (config : EngineConfig Addr) (journal : Journal Addr) (io : Io)
    (peer : Addr) (named payload : String) :
    (enqueueAnswer config journal io peer named payload = none ∧
        (sendMessage config journal io peer named payload).1 = journal) ∨
      ∃ lease, enqueueAnswer config journal io peer named payload =
          some (journal.enqueueOutbound config.runtime io named payload (config.addrId peer) peer
            lease).2 ∧
        (sendMessage config journal io peer named payload).1 =
          (journal.enqueueOutbound config.runtime io named payload (config.addrId peer) peer
            lease).1 := by
  unfold enqueueAnswer sendMessage
  split_ifs
  · exact .inl ⟨rfl, rfl⟩
  · cases PeerMessage.new config named payload config.endpointIdHex io.now with
    | error reason => exact .inl ⟨rfl, rfl⟩
    | ok message =>
        dsimp only
        cases message.checkFrameSize config with
        | error reason => exact .inl ⟨rfl, rfl⟩
        | ok =>
            refine .inr ⟨_, rfl, ?_⟩
            dsimp only
            split
            · rfl
            · rfl
            · rfl
            · split <;> rfl

/-- A call of the engine's journal keeps the window. -/
theorem Windowed.perform (windowed : Windowed host messageId world) (timing : Timing)
    (operation : Operation Addr) :
    Windowed host messageId
      { world with
        engine := operation.perform host.engine.runtime (timing.io world.clock) world.engine
        clock := (timing.io world.clock).compactedAt } := by
  obtain ⟨started, stamped, compacted⟩ := timing.ordered world.clock
  have later : world.clock ≤ (timing.io world.clock).compactedAt :=
    Nat.le_trans started (Nat.le_trans stamped compacted)
  obtain ⟨pending, tracks⟩ := windowed.tracks
  refine ⟨Operation.perform_tracks ⟨pending, tracks.mono later⟩, windowed.unsent,
    fun since isSince => Nat.le_trans (windowed.begun since isSince) later, windowed.once,
    fun isNew since isSince => ?_⟩
  obtain ⟨kept, recalls⟩ := windowed.recalled isNew since isSince
  exact (recalls.mono later).perform operation
    (Nat.le_trans (windowed.begun since isSince) (Nat.le_trans started stamped))

/-- Handling a `send` in time keeps the window. -/
theorem Windowed.handle (windowed : Windowed host messageId world) {timing : Timing}
    {position : Nat} (isFrame : world.frames[position]? = some frame)
    (inTime : InTime messageId world (.handle timing position)) :
    Windowed host messageId (world.handle host (timing.io world.clock) position frame) := by
  obtain ⟨started, stamped, compacted⟩ := timing.ordered world.clock
  have later : world.clock ≤ (timing.io world.clock).compactedAt :=
    Nat.le_trans started (Nat.le_trans stamped compacted)
  have member : frame ∈ world.frames := List.mem_of_getElem? isFrame
  have remaining : ∀ other ∈ world.frames.eraseIdx position, other ∈ world.frames :=
    fun other isOther => List.mem_of_mem_eraseIdx isOther
  rcases sendMessage_enqueues host.engine world.engine (timing.io world.clock) frame.peerAddr
      frame.messageId frame.payload with ⟨isNone, same⟩ | ⟨lease, isAnswer, enqueued⟩
  · refine windowed.quiet ?_ ?_ later remaining rfl
    · exact same
    · simp only [RequestWorld.handle, isNone]
  · -- Whatever the answer, the journal performed an enqueue.
    have performed := windowed.perform timing (.enqueueOutbound frame.messageId frame.payload
      (host.engine.addrId frame.peerAddr) frame.peerAddr lease)
    have base : Windowed host messageId
        { world.handle host (timing.io world.clock) position frame with news := world.news } := by
      refine performed.quiet ?_ rfl (Nat.le_refl _) remaining rfl
      exact enqueued
    by_cases isNew : (world.engine.enqueueOutbound host.engine.runtime (timing.io world.clock)
        frame.messageId frame.payload (host.engine.addrId frame.peerAddr) frame.peerAddr lease).2 =
        .ok (.ok .new)
    · have isNews : (world.handle host (timing.io world.clock) position frame).news =
          world.news ++ [frame.messageId] := by
        simp only [RequestWorld.handle, isAnswer, isNew]
      by_cases named : frame.messageId = messageId
      · obtain ⟨row, found⟩ := windowed.hasRow member named
        obtain ⟨pending, tracks⟩ := windowed.tracks
        have retains : 0 < host.engine.limits.retentionMs := by
          rw [RequestHost.retentionMs_eq]
          decide
        obtain ⟨free, recalls⟩ := Recalls.of_new retains (tracks.mono later) isNew
        have notNew : messageId ∉ world.news := by
          intro wasNew
          obtain ⟨record, isRecord⟩ := windowed.known wasNew started found
            (inTime frame isFrame named row found)
          rw [named, isRecord] at free
          cases free
        refine { base with unsent := fun isNone => ?_, once := ?_, recalled := fun _ since _ => ?_ }
        · simp [RequestWorld.admittedAt, RequestWorld.handle, found] at isNone
        · rw [isNews, named, List.count_append, List.count_eq_zero_of_not_mem notNew]
          simp
        · refine ⟨none, ?_⟩
          simp only [RequestWorld.handle]
          rw [enqueued, ← named]
          exact recalls since
      · have others : messageId ∉ [frame.messageId] := by
          rw [List.mem_singleton]
          exact fun isFrame => named isFrame.symm
        refine { base with
          unsent := fun isNone => ⟨?_, (base.unsent isNone).2⟩
          once := ?_
          recalled := fun isListed => ?_ }
        · rw [isNews, List.mem_append, not_or]
          exact ⟨(base.unsent isNone).1, others⟩
        · rw [isNews, List.count_append, List.count_eq_zero_of_not_mem others]
          exact base.once
        · rw [isNews, List.mem_append] at isListed
          exact base.recalled (isListed.resolve_right others)
    · have isNews : (world.handle host (timing.io world.clock) position frame).news =
          world.news := by
        simp only [RequestWorld.handle, isAnswer]
        split
        next isOther =>
          rw [Option.some.injEq] at isOther
          exact absurd isOther isNew
        · rfl
      exact base.quiet rfl isNews (Nat.le_refl _) (fun _ isOther => isOther) rfl

/-- Every step whose `send` is handled in time keeps the window. -/
theorem requestStep_windowed (world : RequestWorld Addr) (label : RequestLabel Addr)
    (condition : Undisturbed messageId world label ∧ InTime messageId world label)
    (windowed : Windowed host messageId world) :
    Windowed host messageId (requestStep host world label) := by
  obtain ⟨undisturbed, inTime⟩ := condition
  cases label with
  | request times call =>
      simp only [requestStep]
      split
      · exact windowed.quiet rfl rfl (by dsimp only; omega) (fun _ member => member) rfl
      next isOk => exact windowed.request isOk
  | sent waited position aborted error =>
      simp only [requestStep]
      split
      · exact windowed.quiet rfl rfl (Nat.le_add_right _ _) (fun _ member => member)
          admittedAt_writeAfterSend
      · exact windowed
  | status waited position answer =>
      simp only [requestStep]
      split
      · exact windowed.quiet rfl rfl (Nat.le_add_right _ _) (fun _ member => member)
          admittedAt_writeAfterStatus
      · exact windowed
  | close waited named reason =>
      exact windowed.quiet rfl rfl (Nat.le_add_right _ _) (fun _ member => member)
        admittedAt_closeRequest
  | sweep waited =>
      exact windowed.quiet rfl rfl (Nat.le_add_right _ _) (fun _ member => member)
        (admittedAt_sweep undisturbed)
  | restartDrain => exact windowed.quiet rfl rfl (Nat.le_refl _) (fun _ member => member) rfl
  | handle timing position =>
      simp only [requestStep]
      split
      · exact windowed
      next frame isFrame => exact windowed.handle isFrame inTime
  | lose position =>
      exact windowed.quiet rfl rfl (Nat.le_refl _)
        (fun _ member => List.mem_of_mem_eraseIdx member) rfl
  | engineCall timing operation => exact windowed.perform timing operation
  | restartEngine waited =>
      simp only [requestStep]
      split
      · exact windowed
      next reopened isReopened => exact windowed.restart isReopened

/-- A run whose steps leave the id alone and handle its `send`s in time ends with
the window kept. -/
theorem windowed_run {labels : List (RequestLabel Addr)}
    (undisturbed : (requestMachine host).Along (Undisturbed messageId) (requestMachine host).initial
      labels)
    (inTime : (requestMachine host).Along (InTime messageId) (requestMachine host).initial labels) :
    Windowed host messageId ((requestMachine host).run labels) := by
  have along := undisturbed.and inTime
  refine @Machine.Along.invariant _ _ _ _ (Windowed host messageId) requestStep_windowed _ ?_ _ along
  refine ⟨⟨none, Tracks.fresh⟩, fun _ => ⟨nofun, nofun⟩, nofun, Nat.zero_le _, nofun⟩

end

/-- How often an id is queued in a run, and what becomes of a later call: its
`send` finds the engine's record, or it is refused before. -/
structure SentOnce (host : RequestHost Addr) [DecidableEq Addr] (messageId : String)
    (labels : List (RequestLabel Addr)) : Prop where
  once : ((requestMachine host).run labels).news.count messageId ≤ 1
  reaches : ∀ earlier timing position rest, labels = earlier ++ .handle timing position :: rest →
    messageId ∈ ((requestMachine host).run earlier).news →
    ∀ frame, ((requestMachine host).run earlier).frames[position]? = some frame →
      frame.messageId = messageId →
      ∃ record, ((requestMachine host).run earlier).engine.index.outbound.find? messageId =
        some record
  refuses : ∀ earlier times call rest, labels = earlier ++ .request times call :: rest →
    messageId ∈ ((requestMachine host).run earlier).news → call.messageId = messageId →
    ∃ row, ((requestMachine host).run earlier).outbound.find? messageId = some row ∧
      ∀ refusal, sendRequest host ((requestMachine host).run earlier).outbound call
          ((requestMachine host).run earlier).clock times = .error refusal →
        row.toEndpointId = call.toEndpointId → row.payloadHash = host.digest (requestEnvelope call) →
        refusal = .correlationClosed ∨ refusal = .retryWindowExpired ∨
          checkRequest host call (((requestMachine host).run earlier).clock + times.waited) =
            .error refusal


/-- An id whose `send`s the engine handles before seven days have passed since
its row was inserted is queued once, whatever else happens in between. -/
theorem request_sent_once (host : RequestHost Addr) [DecidableEq Addr] (messageId : String)
    (labels : List (RequestLabel Addr))
    (undisturbed : (requestMachine host).Along (Undisturbed messageId) (requestMachine host).initial
      labels)
    (inTime : (requestMachine host).Along (InTime messageId) (requestMachine host).initial labels) :
    SentOnce host messageId labels := by
  constructor
  · exact (windowed_run undisturbed inTime).once
  · rintro earlier timing position rest rfl wasNew frame isFrame named
    have windowed : Windowed host messageId ((requestMachine host).run earlier) :=
      windowed_run undisturbed.step.1 inTime.step.1
    obtain ⟨row, found⟩ := windowed.hasRow (List.mem_of_getElem? isFrame) named
    exact windowed.known wasNew (timing.ordered _).1 found
      (inTime.step.2 frame isFrame named row found)
  · rintro earlier times call rest rfl wasNew rfl
    have windowed : Windowed host call.messageId ((requestMachine host).run earlier) :=
      windowed_run undisturbed.step.1 inTime.step.1
    generalize (requestMachine host).run earlier = world at windowed wasNew
    cases found : world.outbound.find? call.messageId with
    | none =>
        have isNone : world.admittedAt call.messageId = none := by
          rw [RequestWorld.admittedAt, found]
          rfl
        exact absurd wasNew (windowed.unsent isNone).1
    | some row =>
        refine ⟨row, rfl, fun refusal isRefused samePeer sameHash => ?_⟩
        exact sendRequest_refused found samePeer sameHash isRefused

end

/-- An endpoint that a host can dial. -/
def routedEndpoint : String :=
  "aaaaaaaaaaaaaaaaaaaaaaaaaaaaaaaaaaaaaaaaaaaaaaaaaaaaaaaaaaaaaaaa"

/-- A host with one route, whose engine has its default limits. -/
def routedHost : RequestHost String where
  engine :=
    { runtime := PeerEngine.plainRuntime
      encodedFrameLen := fun message => message.payload.utf8ByteSize
      addrId := id
      endpointIdHex := "bbbbbbbbbbbbbbbbbbbbbbbbbbbbbbbbbbbbbbbbbbbbbbbbbbbbbbbbbbbbbbbb"
      limits := ⟨1000, 16 * 1024 * 1024, 1000, 64 * 1024 * 1024, tombstoneWindowMs, 10000⟩
      retry := ⟨2000, 600000, 604800000, 30000⟩
      roster := [routedEndpoint] }
  routes := fun endpoint => if endpoint = routedEndpoint then some endpoint else none
  default_retention := rfl

/-- A request of this host. -/
def routedCall : RequestCall :=
  ⟨routedEndpoint, "hello", "r-1", "m-1"⟩

/-- A step that takes `waited` and whose writes succeed. -/
def writtenAfter (waited : Nat) : Timing :=
  ⟨waited, 0, 0, .written, .replaced⟩

/-- A request that is settled in the millisecond it was made, and made again
`waited` later, right after a restart of the engine. -/
def requestedAgain (waited : Nat) : List (RequestLabel String) :=
  [.request ⟨0, 0, 0⟩ routedCall, .handle (writtenAfter 0) 0,
    .engineCall (writtenAfter 0) (.recordSettled "m-1"), .restartEngine waited,
    .request ⟨0, 0, 0⟩ routedCall, .handle (writtenAfter 0) 0]

/-- A millisecond before the window closes, the second `send` finds the record of
the first. -/
theorem request_sent_once_settled :
    SentOnce routedHost "m-1" (requestedAgain (tombstoneWindowMs - 1)) :=
  request_sent_once routedHost "m-1" (requestedAgain (tombstoneWindowMs - 1))
    (by decide +kernel) (by decide +kernel)

/-- At the end of the window the service still lets the id through and the engine
has just forgotten it: it is queued twice. -/
theorem request_sent_twice :
    (requestMachine routedHost).Along (Undisturbed "m-1") (requestMachine routedHost).initial
        (requestedAgain tombstoneWindowMs) ∧
      ((requestMachine routedHost).run (requestedAgain tombstoneWindowMs)).news =
        ["m-1", "m-1"] ∧
      ¬ SentOnce routedHost "m-1" (requestedAgain tombstoneWindowMs) := by
  have run : (requestMachine routedHost).Along (Undisturbed "m-1")
        (requestMachine routedHost).initial (requestedAgain tombstoneWindowMs) ∧
      ((requestMachine routedHost).run (requestedAgain tombstoneWindowMs)).news =
        ["m-1", "m-1"] := by
    decide +kernel
  refine ⟨run.1, run.2, fun sent => ?_⟩
  have twice := sent.once
  rw [run.2] at twice
  exact absurd twice (by decide)

end Triangle.PeerDrain
