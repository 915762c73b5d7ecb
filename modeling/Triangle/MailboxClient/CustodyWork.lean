import Triangle.MailboxClient.CustodySteps

/-!
# Work on a message

The calls by which an execution works on its own message, begins and ends, and the
quarantine of a delivery. With the frames they are the rules by which all operations of a
client take their turns.
-/

namespace Triangle.MailboxClient

open Triangle.Std Triangle.Semantics

/-- A process works on one message of the delivery that it executes. -/
structure Work (terms : Terms) (process ref id : Nat) (custody after : Custody) : Prop where
  executes : custody.executing process = some id
  executing : after.executing = custody.executing
  quarantined : after.isQuarantined = custody.isQuarantined
  active : after.isActive = custody.isActive
  acknowledged : after.acknowledged = custody.acknowledged
  issued : after.issued = custody.issued
  won : after.won = custody.won
  skipped : after.skipped = custody.skipped
  seen : after.seen = custody.seen
  length : after.messages.length = custody.messages.length
  generated : ∀ other, other ≠ ref → after.generated.count other = custody.generated.count other
  custodies : ∀ other, other ≠ ref → after.custodies.count other = custody.custodies.count other
  counted : ∀ other, other ∈ after.generated ∨ other ∈ after.custodies →
    other = ref ∨ other ∈ custody.generated ∨ other ∈ custody.custodies
  bounded : terms.bounded → after.generated.count ref ≤ terms.options.maxDeliveryAttempts
  others : ∀ other : Nat, other ≠ ref → after.messages[other]? = custody.messages[other]?
  worked : ∃ before message, custody.messages[ref]? = some before ∧
    after.messages[ref]? = some message ∧ before.id = id ∧ Evolves before message ∧
    (message.metadata.owned = true → before.metadata.owned = true) ∧
    (message.metadata.replyPersisted = true → IsShown terms custody before)

section

variable {terms : Terms} {process ref id : Nat} {command : Command} {custody after : Custody}
  {response : Response}

variable {message : Message} {other : Nat} {request : Call}

section

variable (work : Work terms process ref id custody after)
include work

/-- Each message was one before. -/
theorem Work.origin {place : Nat} (isMessage : after.messages[place]? = some message) :
    ∃ before, custody.messages[place]? = some before ∧ Evolves before message ∧
      (place ≠ ref → before = message) := by
  by_cases same : place = ref
  · subst same
    obtain ⟨before, worked, isBefore, isWorked, -, evolves, -⟩ := work.worked
    obtain rfl := Option.mem_unique isWorked isMessage
    exact ⟨before, isBefore, evolves, fun different => absurd rfl different⟩
  · rw [work.others place same] at isMessage
    exact ⟨message, isMessage, .refl message, fun _ => rfl⟩

/-- The message that is worked on is of the delivery. -/
theorem Work.place {place : Nat} (isMessage : after.messages[place]? = some message)
    (different : message.id ≠ id) : place ≠ ref := by
  rintro rfl
  obtain ⟨before, worked, -, isWorked, isAbout, evolves, -⟩ := work.worked
  obtain rfl := Option.mem_unique isWorked isMessage
  exact different (evolves.id.trans isAbout)

/-- Work is on no message of another delivery. -/
theorem Work.spared (different : other ≠ id) :
    Spared terms other custody after where
  quarantined _ := by rw [work.quarantined]
  messages place message isMessage isAbout := by
    have elsewhere : place ≠ ref := by
      apply work.place isMessage
      rw [isAbout]
      exact different
    rw [work.others place elsewhere] at isMessage
    exact .inl ⟨work.generated place elsewhere, work.custodies place elsewhere, message, isMessage,
      .refl message⟩

theorem Work.later (holds : Holds terms custody) (isOther : other ≠ process) :
    Later terms other custody after where
  messages place message isMessage := by
    by_cases same : place = ref
    · subst same
      obtain ⟨before, worked, isBefore, isWorked, -, evolves, -⟩ := work.worked
      obtain rfl := Option.mem_unique isBefore isMessage
      exact ⟨worked, isWorked, evolves⟩
    · exact ⟨message, (work.others place same).trans isMessage, .refl message⟩
  issued := by rw [work.issued]; exact List.Subset.refl _
  acknowledged := by rw [work.acknowledged]; exact List.Subset.refl _
  won := by rw [work.won]; exact List.Subset.refl _
  skipped := by rw [work.skipped]; exact List.Subset.refl _
  seen := by rw [work.seen]; exact List.Subset.refl _
  executing := by rw [work.executing]
  spared taken isExecuting := by
    apply work.spared
    rintro rfl
    exact isOther (holds.alone other process taken isExecuting work.executes)

/-- Work keeps the invariant. -/
theorem Work.holds (holds : Holds terms custody) : Holds terms after where
  distinct := by
    rw [work.issued]
    exact holds.distinct
  numbered := by
    rw [work.issued]
    exact holds.numbered
  told message member := by
    obtain ⟨place, isMessage⟩ := List.getElem?_of_mem member
    obtain ⟨before, isBefore, evolves, -⟩ := work.origin isMessage
    obtain ⟨isIssued, told⟩ := holds.message isBefore
    rw [work.issued, evolves.delivery]
    exact ⟨isIssued, evolves.told told⟩
  owned message member isOwned := by
    obtain ⟨place, isMessage⟩ := List.getElem?_of_mem member
    rw [work.won]
    by_cases same : place = ref
    · subst same
      obtain ⟨before, worked, isBefore, isWorked, -, evolves, wasOwned, -⟩ := work.worked
      obtain rfl := Option.mem_unique isWorked isMessage
      rw [evolves.id, evolves.claimId]
      exact holds.owned before (List.mem_of_getElem? isBefore) (wasOwned isOwned)
    · rw [work.others place same] at isMessage
      exact holds.owned message (List.mem_of_getElem? isMessage) isOwned
  persisted message member isPersisted := by
    obtain ⟨place, isMessage⟩ := List.getElem?_of_mem member
    have seen : custody.seen ⊆ after.seen := by
      rw [work.seen]
      exact List.Subset.refl _
    by_cases same : place = ref
    · subst same
      obtain ⟨before, worked, isBefore, isWorked, -, evolves, -, isShown⟩ := work.worked
      obtain rfl := Option.mem_unique isWorked isMessage
      exact (isShown isPersisted).later evolves seen
    · rw [work.others place same] at isMessage
      exact (holds.persisted message (List.mem_of_getElem? isMessage) isPersisted).later
        (.refl message) seen
  known isHonest seen member := by
    rw [work.seen] at member
    apply (holds.known isHonest seen member).later
    rw [work.issued]
    exact List.Subset.refl _
  active other taken isExecuting := by
    rw [work.executing] at isExecuting
    rw [work.active]
    exact holds.active other taken isExecuting
  alone first second taken isFirst isSecond := by
    rw [work.executing] at isFirst isSecond
    exact holds.alone first second taken isFirst isSecond
  counted other isCounted := by
    rw [work.length]
    rcases work.counted other isCounted with rfl | isOld
    · obtain ⟨before, -, isBefore, -⟩ := work.worked
      exact (List.getElem?_eq_some_iff.mp isBefore).1
    · exact holds.counted other isOld
  generated isBounded other := by
    by_cases same : other = ref
    · rw [same]
      exact work.bounded isBounded
    · rw [work.generated other same]
      exact holds.generated isBounded other
  settled isBounded idle isIdle := by
    rw [work.active] at isIdle
    have different : idle ≠ id := by
      rintro rfl
      rw [holds.active process idle work.executes] at isIdle
      cases isIdle
    intro place message isMessage isAbout
    apply (work.spared different).clear isBounded _ isMessage isAbout
    · intro before isBefore isAboutToo
      exact holds.settled isBounded idle isIdle place before isBefore isAboutToo
    · rw [work.acknowledged]
      exact List.Subset.refl _

end

/-! ## The calls of an execution -/

/-- A change of metadata that is work. -/
theorem work_changeMetadata (change : MetadataChange) (holds : Holds terms custody)
    (isMessage : custody.messages[ref]? = some message)
    (isExecuting : custody.executing process = some message.id)
    (owned : (change.apply message.metadata).owned = true → message.metadata.owned = true)
    (isShown : (change.apply message.metadata).replyPersisted = true →
      IsShown terms custody message) :
    Work terms process ref message.id custody { custody with
      client := custody.client.withMemory
        (custody.client.memory.changeMetadata ref change) } where
  executes := isExecuting
  executing := rfl
  quarantined := rfl
  active := rfl
  acknowledged := rfl
  issued := rfl
  won := rfl
  skipped := rfl
  seen := rfl
  length := List.length_modify ..
  generated _ _ := rfl
  custodies _ _ := rfl
  counted _ := .inr
  bounded isBounded := holds.generated isBounded ref
  others other different := by
    change (custody.client.memory.changeMetadata ref change).messages[other]? = _
    rw [changeMetadata_getElem?]
    simp only [if_neg (Ne.symm different), Option.map_id']
    rfl
  worked := by
    refine ⟨message, message.changed change, isMessage, ?_, rfl, evolves_changed message change,
      owned, isShown⟩
    change (custody.client.memory.changeMetadata ref change).messages[ref]? = _
    have isOld : custody.client.memory.messages[ref]? = some message := isMessage
    rw [changeMetadata_getElem?, isOld]
    simp

/-- A model call or a won claim is noted. -/
theorem work_noted (holds : Holds terms custody) (isMessage : custody.messages[ref]? = some message)
    (isExecuting : custody.executing process = some message.id) {generated custodies : List Nat}
    (isGenerated : generated = custody.generated ∨ generated = ref :: custody.generated)
    (isClaimed : custodies = custody.custodies ∨ custodies = ref :: custody.custodies)
    (bounded : terms.bounded → generated.count ref ≤ terms.options.maxDeliveryAttempts) :
    Work terms process ref message.id custody { custody with generated, custodies } where
  executes := isExecuting
  executing := rfl
  quarantined := rfl
  active := rfl
  acknowledged := rfl
  issued := rfl
  won := rfl
  skipped := rfl
  seen := rfl
  length := rfl
  generated other different := by
    rcases isGenerated with rfl | rfl
    · rfl
    · exact List.count_cons_of_ne (Ne.symm different)
  custodies other different := by
    rcases isClaimed with rfl | rfl
    · rfl
    · exact List.count_cons_of_ne (Ne.symm different)
  counted other isCounted := by
    rcases isGenerated with rfl | rfl <;> rcases isClaimed with rfl | rfl <;>
      simp only [List.mem_cons] at isCounted <;> tauto
  bounded := bounded
  others _ _ := rfl
  worked := by
    refine ⟨message, message, isMessage, isMessage, rfl, .refl message, fun isOwned => isOwned, ?_⟩
    exact holds.persisted message (List.mem_of_getElem? isMessage)

/-! ## The begin and the end -/

/-- The messages and their counts are as they were. -/
theorem later_same (messages : after.messages = custody.messages)
    (generated : after.generated = custody.generated)
    (custodies : after.custodies = custody.custodies) (issued : after.issued = custody.issued)
    (acknowledged : after.acknowledged = custody.acknowledged) (won : after.won = custody.won)
    (skipped : after.skipped = custody.skipped) (seen : after.seen = custody.seen)
    (executing : after.executing process = custody.executing process)
    (quarantined : terms.bounded → ∀ id, custody.executing process = some id →
      after.isQuarantined id = custody.isQuarantined id) :
    Later terms process custody after where
  messages place message isMessage := ⟨message, by rw [messages, isMessage], .refl message⟩
  issued := by rw [issued]; exact List.Subset.refl _
  acknowledged := by rw [acknowledged]; exact List.Subset.refl _
  won := by rw [won]; exact List.Subset.refl _
  skipped := by rw [skipped]; exact List.Subset.refl _
  seen := by rw [seen]; exact List.Subset.refl _
  executing := executing
  spared id isExecuting := by
    refine ⟨fun isBounded => quarantined isBounded id isExecuting, ?_⟩
    intro place message isMessage _
    rw [messages] at isMessage
    exact .inl ⟨by rw [generated], by rw [custodies], message, isMessage, .refl message⟩

/-- The invariant, where only the executions and the quarantine changed. -/
theorem Holds.reassign (holds : Holds terms custody) (messages : after.messages = custody.messages)
    (generated : after.generated = custody.generated)
    (custodies : after.custodies = custody.custodies) (issued : after.issued = custody.issued)
    (won : after.won = custody.won) (seen : after.seen = custody.seen)
    (active : ∀ process id, after.executing process = some id → after.isActive id = true)
    (alone : ∀ process other id, after.executing process = some id →
      after.executing other = some id → process = other)
    (settled : terms.bounded → ∀ id, after.isActive id = false → Settled terms after id) :
    Holds terms after where
  distinct := by
    rw [issued]
    exact holds.distinct
  numbered := by
    rw [issued]
    exact holds.numbered
  told := by
    rw [messages, issued]
    exact holds.told
  owned := by
    rw [messages, won]
    exact holds.owned
  persisted message member isPersisted := by
    rw [messages] at member
    apply (holds.persisted message member isPersisted).later (.refl message)
    rw [seen]
    exact List.Subset.refl _
  known isHonest shown member := by
    rw [seen] at member
    apply (holds.known isHonest shown member).later
    rw [issued]
    exact List.Subset.refl _
  active := active
  alone := alone
  counted := by
    rw [generated, custodies, messages]
    exact holds.counted
  generated := by
    rw [generated]
    exact holds.generated
  settled := settled

/-- A delivery is as settled as before, where nothing changed but the executions and
deliveries were quarantined at most. -/
theorem Settled.reassign (settled : Settled terms custody id)
    (messages : after.messages = custody.messages)
    (generated : after.generated = custody.generated)
    (custodies : after.custodies = custody.custodies)
    (acknowledged : after.acknowledged = custody.acknowledged)
    (quarantined : custody.isQuarantined id = true → after.isQuarantined id = true) :
    Settled terms after id := by
  intro place message isMessage isAbout
  rw [messages] at isMessage
  obtain ⟨accounted, attempts⟩ := settled place message isMessage isAbout
  refine ⟨⟨?_, ?_⟩, attempts.imp_right fun isHeld => ?_⟩
  · rw [generated]
    exact accounted.generated
  · rw [acknowledged, custodies]
    exact accounted.custodies.imp_right fun more => more.imp_left fun isHeld => by
      rw [isAbout] at isHeld ⊢
      exact quarantined isHeld
  · rw [isAbout] at isHeld ⊢
    exact quarantined isHeld

theorem begin_cases (id : Nat) :
    ((performCustody terms.workerId process custody (.beginDelivery id) response).1 = custody ∧
      (performCustody terms.workerId process custody (.beginDelivery id) response).2 = false) ∨
    (custody.isActive id = false ∧
      (performCustody terms.workerId process custody (.beginDelivery id) response).2 = true ∧
      (performCustody terms.workerId process custody (.beginDelivery id) response).1 =
        { custody with
          executing := Function.update custody.executing process (some id)
          client := custody.client.withMemory { custody.client.memory with
            activeDeliveries := Function.update custody.client.memory.activeDeliveries id true } })
    := by
  unfold performCustody perform
  dsimp only
  cases isActive : custody.client.memory.activeDeliveries id with
  | true => exact .inl ⟨rfl, rfl⟩
  | false => exact .inr ⟨isActive, rfl, rfl⟩

theorem Holds.begin (holds : Holds terms custody) (idle : custody.isActive id = false) :
    Holds terms { custody with
      executing := Function.update custody.executing process (some id)
      client := custody.client.withMemory { custody.client.memory with
        activeDeliveries := Function.update custody.client.memory.activeDeliveries id true } } := by
  -- Nobody executes the delivery yet.
  have free : ∀ other, custody.executing other ≠ some id := by
    intro other isExecuting
    rw [holds.active other id isExecuting] at idle
    cases idle
  refine holds.reassign rfl rfl rfl rfl rfl rfl ?_ ?_ ?_
  · intro other taken isExecuting
    change Function.update custody.client.memory.activeDeliveries id true taken = true
    by_cases same : taken = id
    · rw [same, Function.update_self]
    · rw [Function.update_of_ne same]
      change Function.update custody.executing process (some id) other = some taken at isExecuting
      by_cases own : other = process
      · rw [own, Function.update_self] at isExecuting
        exact absurd (Option.some.inj isExecuting).symm same
      · rw [Function.update_of_ne own] at isExecuting
        exact holds.active other taken isExecuting
  · intro first second taken isFirst isSecond
    change Function.update custody.executing process (some id) first = some taken at isFirst
    change Function.update custody.executing process (some id) second = some taken at isSecond
    by_cases ownFirst : first = process <;> by_cases ownSecond : second = process
    · rw [ownFirst, ownSecond]
    · rw [ownFirst, Function.update_self] at isFirst
      rw [Function.update_of_ne ownSecond, ← Option.some.inj isFirst] at isSecond
      exact absurd isSecond (free second)
    · rw [ownSecond, Function.update_self] at isSecond
      rw [Function.update_of_ne ownFirst, ← Option.some.inj isSecond] at isFirst
      exact absurd isFirst (free first)
    · rw [Function.update_of_ne ownFirst] at isFirst
      rw [Function.update_of_ne ownSecond] at isSecond
      exact holds.alone first second taken isFirst isSecond
  · intro isBounded taken isIdle
    change Function.update custody.client.memory.activeDeliveries id true taken = false at isIdle
    have different : taken ≠ id := by
      rintro rfl
      rw [Function.update_self] at isIdle
      cases isIdle
    rw [Function.update_of_ne different] at isIdle
    exact (holds.settled isBounded taken isIdle).reassign rfl rfl rfl rfl fun isHeld => isHeld

theorem Holds.end (holds : Holds terms custody) (isExecuting : custody.executing process = some id)
    (settled : terms.bounded → Settled terms custody id) :
    Holds terms { custody with
      executing := Function.update custody.executing process none
      client := custody.client.withMemory { custody.client.memory with
        activeDeliveries := Function.update custody.client.memory.activeDeliveries id false } } := by
  refine holds.reassign rfl rfl rfl rfl rfl rfl ?_ ?_ ?_
  · intro other taken isTaken
    change Function.update custody.client.memory.activeDeliveries id false taken = true
    change Function.update custody.executing process none other = some taken at isTaken
    have notOwn : other ≠ process := by
      rintro rfl
      rw [Function.update_self] at isTaken
      cases isTaken
    rw [Function.update_of_ne notOwn] at isTaken
    have different : taken ≠ id := by
      rintro rfl
      exact notOwn (holds.alone other process taken isTaken isExecuting)
    rw [Function.update_of_ne different]
    exact holds.active other taken isTaken
  · intro first second taken isFirst isSecond
    change Function.update custody.executing process none first = some taken at isFirst
    change Function.update custody.executing process none second = some taken at isSecond
    have notFirst : first ≠ process := by
      rintro rfl
      rw [Function.update_self] at isFirst
      cases isFirst
    have notSecond : second ≠ process := by
      rintro rfl
      rw [Function.update_self] at isSecond
      cases isSecond
    rw [Function.update_of_ne notFirst] at isFirst
    rw [Function.update_of_ne notSecond] at isSecond
    exact holds.alone first second taken isFirst isSecond
  · intro isBounded taken isIdle
    by_cases same : taken = id
    · rw [same]
      exact (settled isBounded).reassign rfl rfl rfl rfl fun isHeld => isHeld
    · change Function.update custody.client.memory.activeDeliveries id false taken = false at isIdle
      rw [Function.update_of_ne same] at isIdle
      exact (holds.settled isBounded taken isIdle).reassign rfl rfl rfl rfl fun isHeld => isHeld

theorem isQuarantined_quarantine (memory : Memory) (taken : Nat) (reason : String)
    (message : Option Nat) (now : String) (id : Nat) :
    (memory.quarantineDelivery taken reason message now).isQuarantined id =
      (decide (id = taken) || memory.isQuarantined id) := by
  rw [Memory.isQuarantined, Memory.quarantineDelivery, Table.find?_upsert,
    Memory.advanceListCursor_quarantinedDeliveries]
  by_cases same : id = taken
  · rw [if_pos same, decide_eq_true same]
    rfl
  · rw [if_neg same, decide_eq_false same]
    rfl

section

variable (holds : Holds terms custody)
include holds

theorem Holds.quarantine (taken : Nat) (reason : String) (message : Option Nat) (now : String) :
    Holds terms { custody with
      client := custody.client.withMemory
        (custody.client.memory.quarantineDelivery taken reason message now) } := by
  have sameMessages : (custody.client.memory.quarantineDelivery taken reason message now).messages =
      custody.client.memory.messages := Memory.advanceListCursor_messages _ taken
  have sameActive :
      (custody.client.memory.quarantineDelivery taken reason message now).activeDeliveries =
        custody.client.memory.activeDeliveries := by
    unfold Memory.quarantineDelivery Memory.advanceListCursor
    dsimp only
    split <;> rfl
  refine holds.reassign sameMessages rfl rfl rfl rfl rfl ?_ holds.alone ?_
  · intro process id isExecuting
    change (custody.client.memory.quarantineDelivery taken reason message
      now).activeDeliveries id = true
    rw [sameActive]
    exact holds.active process id isExecuting
  · intro isBounded id isIdle
    change (custody.client.memory.quarantineDelivery taken reason message
      now).activeDeliveries id = false at isIdle
    rw [sameActive] at isIdle
    refine (holds.settled isBounded id isIdle).reassign sameMessages rfl rfl rfl fun isHeld => ?_
    change (custody.client.memory.quarantineDelivery taken reason message
      now).isQuarantined id = true
    rw [isQuarantined_quarantine, Bool.or_eq_true]
    exact .inr isHeld

/-! ## The rules -/

/-- Every call keeps the invariant, and leaves the others what they rely on. -/
theorem perform_keeps (needs : Needs terms process command custody request)
    (meets : Meets terms process command custody request response) :
    Holds terms (performCustody terms.workerId process custody request response).1 ∧
      ∀ other, other ≠ process → Later terms other custody
        (performCustody terms.workerId process custody request response).1 := by
  by_cases idle : isWork request = false
  · have frame := perform_frame holds idle needs meets
    exact ⟨frame.holds holds, fun other _ => frame.later holds other⟩
  · cases request with
    | beginDelivery id =>
        rcases @begin_cases terms process custody response id with
          ⟨isAfter, -⟩ | ⟨isFree, -, isAfter⟩
        · rw [isAfter]
          exact ⟨holds, fun other _ => .refl other custody⟩
        · rw [isAfter]
          refine ⟨holds.begin isFree, fun other different => ?_⟩
          refine later_same rfl rfl rfl rfl rfl rfl rfl rfl ?_ fun _ _ _ => rfl
          exact Function.update_of_ne different _ _
    | endDelivery id =>
        obtain ⟨isExecuting, settled⟩ := needs
        refine ⟨holds.end isExecuting settled, fun other different => ?_⟩
        refine later_same rfl rfl rfl rfl rfl rfl rfl rfl ?_ fun _ _ _ => rfl
        exact Function.update_of_ne different _ _
    | quarantineDelivery id reason message =>
        refine ⟨holds.quarantine id reason message _, fun other different => ?_⟩
        refine later_same ?_ rfl rfl rfl rfl rfl rfl rfl rfl fun isBounded taken isTaken => ?_
        · exact Memory.advanceListCursor_messages _ id
        · change (custody.client.memory.quarantineDelivery id reason message _).isQuarantined taken =
            _
          have notTaken : taken ≠ id := by
            rintro rfl
            rcases needs with rfl | isExecuting
            · have isIdle := meets.bounded isBounded taken reason message rfl
              rw [holds.active other taken isTaken] at isIdle
              cases isIdle
            · exact different (holds.alone other process taken isTaken isExecuting)
          rw [isQuarantined_quarantine, decide_eq_false notTaken, Bool.false_or]
          rfl
    | changeMetadata place change =>
        cases change with
        | replyPersisted =>
            obtain ⟨message, isMessage, isShown, isExecuting⟩ := needs
            have work := work_changeMetadata .replyPersisted holds isMessage isExecuting
              (fun isOwned => isOwned) fun _ => isShown
            exact ⟨work.holds holds, fun other different => work.later holds different⟩
        | processingAttempt =>
            obtain ⟨message, isMessage, isExecuting⟩ := needs
            have work := work_changeMetadata .processingAttempt holds isMessage isExecuting
              (fun isOwned => isOwned) (holds.persisted message (List.mem_of_getElem? isMessage))
            exact ⟨work.holds holds, fun other different => work.later holds different⟩
        | _ => exact absurd rfl idle
    | _ => exact absurd rfl idle

/-- What is noted of an allowed call keeps the invariant, and leaves the others what they
rely on. -/
theorem issue_keeps (allows : Allows terms process command custody request) :
    Holds terms (issueCustody process command custody request) ∧
      ∀ other, other ≠ process → Later terms other custody
        (issueCustody process command custody request) := by
  unfold issueCustody
  split
  next ref given =>
    obtain ⟨place, message, isCommand, isMessage, evolves, -, isExecuting, -, within⟩ :=
      allows.permits
    obtain rfl := Command.completeAndAcknowledge.inj isCommand
    have isOwn : custody.executing process = some message.id := by
      rw [evolves.id]
      exact isExecuting
    have work := work_noted holds isMessage isOwn (.inr rfl) (.inl rfl) fun isBounded => by
      rw [List.count_cons_self]
      exact (within isBounded).2
    exact ⟨work.holds holds, fun other different => work.later holds different⟩
  next ref place leaseExpiresAt =>
    obtain ⟨isCommand, message, isMessage, -, isExecuting, -⟩ := allows.permits
    obtain rfl := Command.completeAndAcknowledge.inj isCommand
    have work := work_noted holds isMessage isExecuting (.inl rfl) (.inr rfl) fun isBounded =>
      holds.generated isBounded ref
    exact ⟨work.holds holds, fun other different => work.later holds different⟩
  next => exact ⟨holds, fun other _ => .refl other custody⟩

end

end

end Triangle.MailboxClient
