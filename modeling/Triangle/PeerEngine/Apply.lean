import Triangle.PeerEngine.Journal

/-!
# Reading the index after a record

What `apply` does to one key of the outbound and of the inbound map, and that
the per-sender totals stay exact. Both are about any record, so they hold for
appended and for replayed records alike.
-/

namespace Triangle.PeerEngine

open Triangle.Std

namespace Index

section

variable {Addr : Type}

@[simp] theorem liveSub_outbound (index : Index Addr) (sender : String) (bytes : Nat) :
    (index.liveSub sender bytes).outbound = index.outbound := by
  unfold liveSub
  split
  · rfl
  · split <;> rfl

@[simp] theorem liveSub_inbound (index : Index Addr) (sender : String) (bytes : Nat) :
    (index.liveSub sender bytes).inbound = index.inbound := by
  unfold liveSub
  split
  · rfl
  · split <;> rfl

@[simp] theorem dropLive_outbound (index : Index Addr) (record : Option InboundRecord) :
    (index.dropLive record).outbound = index.outbound := by
  unfold dropLive
  split
  · rfl
  · split <;> simp

@[simp] theorem dropLive_inbound (index : Index Addr) (record : Option InboundRecord) :
    (index.dropLive record).inbound = index.inbound := by
  unfold dropLive
  split
  · rfl
  · split <;> simp

@[simp] theorem liveAdd_outbound (index : Index Addr) (sender : String) (bytes : Nat) :
    (index.liveAdd sender bytes).outbound = index.outbound := rfl

@[simp] theorem liveAdd_inbound (index : Index Addr) (sender : String) (bytes : Nat) :
    (index.liveAdd sender bytes).inbound = index.inbound := rfl

variable (runtime : JournalRuntime Addr)

/-- The outbound record of the message a record names, after it. -/
def outboundAfter (entry : JournalEntry Addr) (old : Option (OutboundRecord Addr)) :
    Option (OutboundRecord Addr) :=
  match entry.state, entry.peerEndpointId with
  | .queuedLocal, some peer => some (queuedRecord runtime entry peer)
  | .settled, _ => some (closedRecord .settled entry old)
  | .refused, _ => some (closedRecord .refused entry old)
  | .expired, _ => some (closedRecord .expired entry old)
  | .addressUpdated, _ => old.map (readdressed entry)
  | _, _ => old

/-- The inbound record of the key a record names, after it. -/
def inboundAfter (entry : JournalEntry Addr) (sender : String) (old : Option InboundRecord) :
    Option InboundRecord :=
  match entry.state with
  | .receivedPeer => some (receivedRecord runtime entry sender)
  | .consumed => some (consumedRecord entry sender old)
  | _ => old

variable {runtime} {index : Index Addr} {entry : JournalEntry Addr}

theorem find?_applyTerminal (state : OutboundState) (messageId : String) :
    (index.applyTerminal state entry).outbound.find? messageId =
      if messageId = entry.messageId then
        some (closedRecord state entry (index.outbound.find? messageId))
      else index.outbound.find? messageId := by
  have sameKey : (closedRecord state entry (index.outbound.find? entry.messageId)).messageId =
      entry.messageId := by
    cases found : index.outbound.find? entry.messageId with
    | none => rfl
    | some record => exact (Table.find?_some found).2
  unfold applyTerminal
  rw [Table.find?_upsert, sameKey]
  by_cases same : messageId = entry.messageId
  · subst same
    rw [if_pos rfl]
  · rw [if_neg same, if_neg same]

@[simp] theorem applyAddress_inbound : (index.applyAddress entry).inbound = index.inbound := by
  unfold applyAddress
  split <;> rfl

@[simp] theorem applyAddress_liveInbound :
    (index.applyAddress entry).liveInbound = index.liveInbound := by
  unfold applyAddress
  split <;> rfl

theorem find?_applyAddress (messageId : String) :
    (index.applyAddress entry).outbound.find? messageId =
      if messageId = entry.messageId then (index.outbound.find? messageId).map (readdressed entry)
      else index.outbound.find? messageId := by
  unfold applyAddress
  cases found : index.outbound.find? entry.messageId with
  | none =>
      by_cases same : messageId = entry.messageId
      · subst same
        simp [found]
      · rw [if_neg same]
  | some record =>
      have sameKey : (readdressed entry record).messageId = entry.messageId := by
        unfold readdressed
        split
        · exact (Table.find?_some found).2
        · exact (Table.find?_some found).2
      simp only [Table.find?_upsert, sameKey]
      by_cases same : messageId = entry.messageId
      · subst same
        simp [found]
      · rw [if_neg same, if_neg same]

/-- A record changes the outbound map at its own message id only. -/
theorem find?_apply_outbound (messageId : String) :
    (index.apply runtime entry).outbound.find? messageId =
      if messageId = entry.messageId then
        outboundAfter runtime entry (index.outbound.find? messageId)
      else index.outbound.find? messageId := by
  unfold apply outboundAfter
  cases isState : entry.state with
  | queuedLocal =>
      cases entry.peerEndpointId with
      | none => simp
      | some peer => exact Table.find?_upsert messageId
  | settled => exact find?_applyTerminal .settled messageId
  | refused => exact find?_applyTerminal .refused messageId
  | expired => exact find?_applyTerminal .expired messageId
  | addressUpdated => exact find?_applyAddress messageId
  | receivedPeer =>
      cases entry.peerEndpointId with
      | none => simp
      | some sender => simp [applyReceived]
  | consumed =>
      cases entry.peerEndpointId with
      | none => simp
      | some sender => simp [applyConsumed]
  | duplicateSuppressed | checkpoint => simp

/-- A record changes the inbound map at its own sender and message id only. -/
theorem find?_apply_inbound (key : String × String) :
    (index.apply runtime entry).inbound.find? key =
      if entry.peerEndpointId = some key.1 ∧ entry.messageId = key.2 then
        inboundAfter runtime entry key.1 (index.inbound.find? key)
      else index.inbound.find? key := by
  obtain ⟨sender, messageId⟩ := key
  unfold apply inboundAfter
  cases isState : entry.state with
  | receivedPeer =>
      cases isPeer : entry.peerEndpointId with
      | none => simp
      | some peer =>
          simp only [applyReceived, liveAdd_inbound, dropLive_inbound]
          rw [Table.find?_upsert]
          by_cases same : peer = sender ∧ entry.messageId = messageId
          · obtain ⟨rfl, rfl⟩ := same
            simp [receivedRecord, InboundRecord.key]
          · rw [if_neg, if_neg]
            · simpa using same
            · simp only [receivedRecord, InboundRecord.key, Prod.mk.injEq]
              rintro ⟨rfl, rfl⟩
              exact same ⟨rfl, rfl⟩
  | consumed =>
      cases isPeer : entry.peerEndpointId with
      | none => simp
      | some peer =>
          have sameKey : (consumedRecord entry peer
              (index.inbound.find? (peer, entry.messageId))).key = (peer, entry.messageId) := by
            cases found : index.inbound.find? (peer, entry.messageId) with
            | none => rfl
            | some record => exact (Table.find?_some found).2
          simp only [applyConsumed, dropLive_inbound]
          rw [Table.find?_upsert, sameKey]
          by_cases same : peer = sender ∧ entry.messageId = messageId
          · obtain ⟨rfl, rfl⟩ := same
            simp
          · rw [if_neg, if_neg]
            · simpa using same
            · rw [Prod.mk.injEq]
              rintro ⟨rfl, rfl⟩
              exact same ⟨rfl, rfl⟩
  | queuedLocal => cases entry.peerEndpointId <;> simp [applyQueued]
  | settled | refused | expired => simp [applyTerminal]
  | addressUpdated | duplicateSuppressed | checkpoint => simp

/-- Whether an inbound record counts for a sender. -/
def liveWeight (sender : String) (record : InboundRecord) : Nat :=
  if record.sender = sender ∧ record.consumed = false then 1 else 0

/-- The payload bytes an inbound record counts for a sender. -/
def liveBytes (sender : String) (record : InboundRecord) : Nat :=
  if record.sender = sender ∧ record.consumed = false then record.payloadBytes else 0

/-- The totals are these numbers, and a sender without messages has no entry. -/
def LiveIs (index : Index Addr) (count bytes : String → Nat) : Prop :=
  ∀ sender, index.liveInbound.find? sender =
    if count sender = 0 then none else some ⟨sender, count sender, bytes sender⟩

/-- The totals are the number and the payload bytes of each sender's unconsumed
records. -/
def LiveExact (index : Index Addr) : Prop :=
  index.LiveIs (fun sender => index.inbound.sumOver (liveWeight sender))
    (fun sender => index.inbound.sumOver (liveBytes sender))

variable {sender : String} {count bytes : String → Nat}

theorem liveBytes_eq_zero {table : Table InboundRecord.key}
    (none : table.sumOver (liveWeight sender) = 0) : table.sumOver (liveBytes sender) = 0 := by
  rw [Table.sumOver_eq_zero] at none ⊢
  intro record member
  have weightless := none record member
  unfold liveWeight at weightless
  unfold liveBytes
  split at weightless
  · cases weightless
  next notLive => rw [if_neg notLive]

theorem liveSub_liveIs {payload : Nat}
    (isLive : index.LiveIs (fun other => count other + if other = sender then 1 else 0)
      (fun other => bytes other + if other = sender then payload else 0)) :
    (index.liveSub sender payload).LiveIs count bytes := by
  have found := isLive sender
  simp only [if_true, Nat.add_eq_zero_iff, Nat.one_ne_zero, and_false, if_false] at found
  intro other
  have atOther := isLive other
  unfold liveSub
  rw [found]
  dsimp only
  by_cases same : other = sender
  · subst same
    by_cases last : count other = 0
    · simp [last, Table.find?_delete, found]
    · simp [last, Table.find?_upsert]
  · simp only [same, if_false, Nat.add_zero] at atOther
    by_cases last : count sender = 0
    · rw [if_pos (by omega), Table.find?_delete, atOther]
      split
      · rfl
      · simp [same]
    · rw [if_neg (by omega), Table.find?_upsert, if_neg same, atOther]

theorem dropLive_liveIs {record : Option InboundRecord}
    (isLive : index.LiveIs (fun sender => (record.map (liveWeight sender)).getD 0 + count sender)
      (fun sender => (record.map (liveBytes sender)).getD 0 + bytes sender)) :
    (index.dropLive record).LiveIs count bytes := by
  cases record with
  | none => simpa [dropLive] using isLive
  | some record =>
      unfold dropLive
      by_cases consumed : record.consumed = true
      · simpa [consumed, liveWeight, liveBytes] using isLive
      · simp only [consumed, Bool.false_eq_true, if_false]
        apply liveSub_liveIs
        intro sender
        have atSender := isLive sender
        rw [Bool.not_eq_true] at consumed
        simp only [liveWeight, liveBytes, consumed, and_true, Option.map_some,
          Option.getD_some] at atSender
        simp only [eq_comm (a := sender)]
        rw [atSender, Nat.add_comm, Nat.add_comm (bytes sender)]

theorem liveAdd_liveIs (sender : String) (payload : Nat)
    (empty : count sender = 0 → bytes sender = 0) (isLive : index.LiveIs count bytes) :
    (index.liveAdd sender payload).LiveIs
      (fun other => (if sender = other then 1 else 0) + count other)
      (fun other => (if sender = other then payload else 0) + bytes other) := by
  intro other
  have atSender := isLive sender
  unfold liveAdd
  dsimp only
  rw [Table.find?_upsert]
  by_cases same : other = sender
  · subst same
    rw [atSender]
    by_cases first : count other = 0
    · simp [first, empty first]
    · simp [first, Nat.add_comm]
  · have differs : ¬ sender = other := fun equal => same equal.symm
    simp only [same, differs, if_false, Nat.zero_add]
    exact isLive other

/-- Without the record of one key, the totals are those of the other keys. -/
theorem dropLive_liveIs_others (exact : index.LiveExact) (inbound : Table InboundRecord.key)
    (key : String × String) :
    ({ index with inbound := inbound }.dropLive (index.inbound.find? key)).LiveIs
      (fun sender => (index.inbound.delete fun row => row.key = key).sumOver (liveWeight sender))
      (fun sender => (index.inbound.delete fun row => row.key = key).sumOver (liveBytes sender)) := by
  apply dropLive_liveIs
  intro sender
  have atSender := exact sender
  simp only [Table.sumOver_eq_weightAt_add index.inbound _ key] at atSender
  exact atSender

/-- The totals stay exact under every record. -/
theorem apply_liveExact (exact : index.LiveExact) : (index.apply runtime entry).LiveExact := by
  unfold apply
  cases entry.state with
  | receivedPeer =>
      cases entry.peerEndpointId with
      | none => exact exact
      | some sender =>
          intro other
          have others := dropLive_liveIs_others exact
            (index.inbound.upsert (receivedRecord runtime entry sender)) (sender, entry.messageId)
          have added := liveAdd_liveIs sender (receivedRecord runtime entry sender).payloadBytes
            liveBytes_eq_zero others other
          simp only [applyReceived, liveAdd_inbound, dropLive_inbound, Table.sumOver_upsert]
          refine added.trans ?_
          simp [liveWeight, liveBytes, receivedRecord, InboundRecord.key]
  | consumed =>
      cases entry.peerEndpointId with
      | none => exact exact
      | some sender =>
          intro other
          have others := dropLive_liveIs_others exact index.inbound (sender, entry.messageId) other
          have sameKey : (consumedRecord entry sender
              (index.inbound.find? (sender, entry.messageId))).key = (sender, entry.messageId) := by
            cases found : index.inbound.find? (sender, entry.messageId) with
            | none => rfl
            | some record => exact (Table.find?_some found).2
          simp only [applyConsumed, dropLive_inbound, Table.sumOver_upsert, sameKey]
          refine others.trans ?_
          simp [liveWeight, liveBytes, consumedRecord]
  | queuedLocal => cases entry.peerEndpointId <;> exact exact
  | settled | refused | expired => exact exact
  | addressUpdated =>
      intro sender
      simpa using exact sender
  | duplicateSuppressed | checkpoint => exact exact

end

end Index

end Triangle.PeerEngine
