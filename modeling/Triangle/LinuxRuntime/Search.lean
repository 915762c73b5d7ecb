import Triangle.LinuxRuntime.Safety

/-!
# Searching a room

What the transport reads when the network and the runner work and the server
answers consistently. The pages of a search for the reply are the first ten
thousand events after the delivered one, so the search finds the reply exactly
when no earlier of these events carries the key or an unreadable one.
-/

namespace Triangle.LinuxRuntime

open Triangle.Std Triangle.Semantics

/-! ## A working environment -/

/-- The network and the runner work: a lease that is held, the text that the runner
answers with, and the id and sequence of the next event. -/
structure Works where
  text : String
  eventId : String
  sequence : Int
  now : Int
  leaseExpiresAt : Int
  bounded : bounded text = true
  isEvent : ident "event" eventId = true
  held : now < leaseExpiresAt

/-- What such an environment decides about each call. -/
def Works.choice (works : Works) : Choice where
  now := works.now
  leaseExpiresAt := works.leaseExpiresAt
  eventId := works.eventId
  sequence := works.sequence
  run := .result "completed" (some works.text)

/-- A call of a process in such an environment. -/
def Works.handle (works : Works) (custodian : Custodian) (world : World) (request : Call) :
    World × Answer request :=
  perform custodian 0 world request works.choice

/-- Run a program in such an environment. -/
abbrev Works.exec {ε α : Type} (works : Works) (custodian : Custodian) (world : World)
    (program : Program Call Answer ε α) : World × Except ε α :=
  program.exec (works.handle custodian) world

/-! ## The events of a room -/

/-- The events of a room after a sequence. -/
def roomAfter (events : List Event) (roomId : String) (after : Int) : List Event :=
  events.filter fun event => event.roomId = roomId ∧ after < event.sequence

/-- The search for the reply goes past the event. -/
def Event.Passes (event : Event) (record : Record) : Prop :=
  ∃ key, event.eventKey = .ok key ∧ key ≠ some record.replyKey

/-- The reply is the first event that the search of at most a hundred pages stops at. -/
def IsFound (custodian : Custodian) (events : List Event) (record : Record) : Prop :=
  ∃ before event rest, roomAfter events record.roomId record.roomSequence = before ++ event :: rest ∧
    before.length < 10000 ∧ (∀ other ∈ before, other.Passes record) ∧ IsReply custodian record event

section

variable {custodian : Custodian} {record : Record} {events : List Event} {works : Works}
  {world : World} {roomId : String} {after : Int}

variable {event : Event} {items : List Event} {later : World} {condition : Prop}

theorem mem_roomAfter :
    event ∈ roomAfter events roomId after ↔
      event ∈ events ∧ event.roomId = roomId ∧ after < event.sequence := by
  simp [roomAfter]

theorem roomAfter_rising (ordered : Ordered events) :
    (roomAfter events roomId after).Pairwise fun first second => first.sequence < second.sequence := by
  have filtered := ordered.rising.filter fun event => event.roomId = roomId ∧ after < event.sequence
  apply filtered.imp_of_mem
  intro first second isFirst isSecond rising
  exact rising ((mem_roomAfter.mp isFirst).2.1.trans (mem_roomAfter.mp isSecond).2.1.symm)

/-- After one of the events of a room come those behind it. -/
theorem roomAfter_split (ordered : Ordered events) {first rest : List Event} {last : Event}
    (split : roomAfter events roomId after = first ++ last :: rest) :
    roomAfter events roomId last.sequence = rest := by
  have rising := @roomAfter_rising events roomId after ordered
  have isLast : last ∈ roomAfter events roomId after := by
    rw [split]
    exact List.mem_append_right _ List.mem_cons_self
  have beyond : after < last.sequence := (mem_roomAfter.mp isLast).2.2
  have narrowed : roomAfter events roomId last.sequence =
      (roomAfter events roomId after).filter fun event => last.sequence < event.sequence := by
    rw [roomAfter, roomAfter, List.filter_filter]
    apply List.filter_congr
    intro event _
    by_cases later : last.sequence < event.sequence
    · simp [later, Int.lt_trans beyond later]
    · simp [later]
  rw [split, List.pairwise_append, List.pairwise_cons] at rising
  obtain ⟨-, ⟨behind, -⟩, earlier⟩ := rising
  rw [narrowed, split, List.filter_append, List.filter_cons_of_neg (by simp)]
  have none : first.filter (fun event => last.sequence < event.sequence) = [] := by
    apply List.filter_eq_nil_iff.mpr
    intro event member
    have before := earlier event member last List.mem_cons_self
    simp only [decide_eq_true_eq]
    omega
  have all : rest.filter (fun event => last.sequence < event.sequence) = rest := by
    apply List.filter_eq_self.mpr
    intro event member
    exact decide_eq_true (behind event member)
  rw [none, all, List.nil_append]

/-! ## Scanning -/

/-- A scan of two parts goes on where the first part ends. -/
theorem scanPage_append (first second : List Event) (last : Int) :
    scanPage custodian record last (first ++ second) =
      match scanPage custodian record last first with
      | .ok (none, middle) => scanPage custodian record middle second
      | other => other := by
  induction first generalizing last with
  | nil => rfl
  | cons event rest ih =>
      rw [List.cons_append, scanPage, scanPage]
      split
      · split
        · rfl
        · split
          · cases matchReply custodian record (some event) <;> rfl
          · exact ih event.sequence
      · rfl

/-- A scan that finds nothing ends at its last event. -/
theorem scanPage_last {last next : Int}
    (scanned : scanPage custodian record last items = .ok (none, next)) :
    next = (items.getLast?.map Event.sequence).getD last := by
  induction items generalizing last with
  | nil =>
      obtain ⟨-, rfl⟩ := pair_ok scanned
      rfl
  | cons event rest ih =>
      rw [scanPage] at scanned
      split at scanned
      · split at scanned
        · cases scanned
        · split at scanned
          · obtain ⟨value, -, same⟩ := map_ok scanned
            cases same
          · rw [ih scanned, List.getLast?_cons]
            cases rest.getLast? <;> rfl
      · cases scanned

/-- A scan throws only for the authority's answer. -/
theorem scanPage_error {last : Int} {problem : CustodianError}
    (scanned : scanPage custodian record last items = .error problem) :
    problem = .invalidAuthorityResponse := by
  induction items generalizing last with
  | nil => cases scanned
  | cons event rest ih =>
      rw [scanPage] at scanned
      split at scanned
      · split at scanned
        next other isKey =>
          obtain rfl := Except.error.inj scanned
          rw [Event.eventKey] at isKey
          split at isKey
          · split at isKey <;> cases isKey
            rfl
          · cases isKey
          · cases isKey
        next key isKey =>
          split at scanned
          · rw [matchReply] at scanned
            split at scanned <;> cases scanned
            rfl
          · exact ih scanned
      · exact (Except.error.inj scanned).symm

/-- Over events in order a scan finds the reply exactly when it is the first
event that it does not pass. -/
theorem scanPage_finds {items : List Event} {last : Int}
    (rising : items.Pairwise fun first second => first.sequence < second.sequence)
    (above : ∀ event ∈ items, last < event.sequence ∧ positive event.sequence = true) :
    (∃ eventId next, scanPage custodian record last items = .ok (some eventId, next)) ↔
      ∃ before event rest, items = before ++ event :: rest ∧
        (∀ other ∈ before, other.Passes record) ∧ IsReply custodian record event := by
  induction items generalizing last with
  | nil =>
      constructor
      · rintro ⟨eventId, next, scanned⟩
        cases scanned
      · rintro ⟨before, event, rest, same, -⟩
        cases before <;> cases same
  | cons event rest ih =>
      obtain ⟨behind, risingRest⟩ := List.pairwise_cons.mp rising
      obtain ⟨later, isPositive⟩ := above event List.mem_cons_self
      have aboveRest : ∀ other ∈ rest,
          event.sequence < other.sequence ∧ positive other.sequence = true :=
        fun other member => ⟨behind other member, (above other (List.mem_cons_of_mem _ member)).2⟩
      have goesOn := ih risingRest aboveRest
      rw [scanPage, if_pos ⟨isPositive, later⟩]
      cases isKey : event.eventKey with
      | error problem =>
          constructor
          · rintro ⟨eventId, next, scanned⟩
            cases scanned
          · rintro ⟨before, found, others, same, passes, isReply⟩
            cases before with
            | nil =>
                obtain ⟨rfl, -⟩ := List.cons.inj same
                rw [isReply.key] at isKey
                cases isKey
            | cons first before =>
                obtain ⟨rfl, -⟩ := List.cons.inj same
                obtain ⟨key, isOk, -⟩ := passes event List.mem_cons_self
                rw [isOk] at isKey
                cases isKey
      | ok key =>
          dsimp only
          by_cases same : key = some record.replyKey
          · rw [if_pos same]
            constructor
            · rintro ⟨eventId, next, scanned⟩
              obtain ⟨value, isMatch, -⟩ := map_ok scanned
              obtain ⟨found, isFound, isReply, -⟩ := matchReply_ok isMatch
              obtain rfl := Option.some.inj isFound
              exact ⟨[], event, rest, rfl, fun _ member => absurd member List.not_mem_nil, isReply⟩
            · rintro ⟨before, found, others, split, passes, isReply⟩
              cases before with
              | nil =>
                  obtain ⟨rfl, -⟩ := List.cons.inj split
                  refine ⟨event.id, event.sequence, ?_⟩
                  rw [matchReply, if_pos isReply]
                  rfl
              | cons first before =>
                  obtain ⟨rfl, -⟩ := List.cons.inj split
                  obtain ⟨other, isOk, different⟩ := passes event List.mem_cons_self
                  rw [isKey] at isOk
                  exact absurd (Except.ok.inj isOk ▸ same) different
          · rw [if_neg same, goesOn]
            constructor
            · rintro ⟨before, found, others, rfl, passes, isReply⟩
              refine ⟨event :: before, found, others, rfl, fun other member => ?_, isReply⟩
              rcases List.mem_cons.mp member with rfl | isBefore
              · exact ⟨key, isKey, same⟩
              · exact passes other isBefore
            · rintro ⟨before, found, others, split, passes, isReply⟩
              cases before with
              | nil =>
                  obtain ⟨rfl, -⟩ := List.cons.inj split
                  rw [isReply.key] at isKey
                  exact absurd (Except.ok.inj isKey).symm same
              | cons first before =>
                  obtain ⟨-, rfl⟩ := List.cons.inj split
                  exact ⟨before, found, others, rfl,
                    fun other member => passes other (List.mem_cons_of_mem _ member), isReply⟩

/-! ## Requests -/

/-- A sequence goes on where its first part has returned. -/
theorem exec_then {ε α β : Type} {program : Program Call Answer ε α} {value : α}
    (returns : works.exec custodian world program = (later, .ok value))
    (rest : α → Program Call Answer ε β) :
    works.exec custodian world (program >>= rest) = works.exec custodian later (rest value) :=
  Program.exec_bind_ok returns rest

/-- A sequence ends where its first part has thrown. -/
theorem exec_throw {ε α β : Type} {program : Program Call Answer ε α} {problem : ε}
    (throws : works.exec custodian world program = (later, .error problem))
    (rest : α → Program Call Answer ε β) :
    works.exec custodian world (program >>= rest) = (later, .error problem) :=
  Program.exec_bind_error throws rest

/-- A guard that holds. -/
theorem exec_guard {ε α : Type} [Decidable condition] (holds : condition) (problem : ε)
    (rest : Unit → Program Call Answer ε α) :
    works.exec custodian world (Program.ensure condition problem >>= rest) =
      works.exec custodian world (rest ()) :=
  Program.exec_ensure holds problem rest

/-- A guard that fails. -/
theorem exec_guard_not {ε α : Type} [Decidable condition] (fails : ¬ condition) (problem : ε)
    (rest : Unit → Program Call Answer ε α) :
    works.exec custodian world (Program.ensure condition problem >>= rest) =
      (world, .error problem) :=
  Program.exec_ensure_not fails problem rest

/-- One call. -/
theorem exec_ask {ε : Type} (request : Call) :
    works.exec custodian world (ask request : Program Call Answer ε (Answer request)) =
      ((works.handle custodian world request).1, .ok (works.handle custodian world request).2) :=
  rfl

/-- One call that may throw. -/
theorem exec_ask! {α : Type} {request : Call} {read : Answer request → Except CustodianError α}
    {value : α} (isRead : read (works.handle custodian world request).2 = .ok value) :
    works.exec custodian world (ask! request read) =
      ((works.handle custodian world request).1, .ok value) :=
  Program.exec_attempt rfl isRead

theorem exec_history (after : Int) (limit : Nat) :
    works.exec custodian world (history record after limit) =
      (world, .ok ((roomAfter world.events record.roomId after).take limit)) := by
  have page : works.exec custodian world (ask! (.history record after limit) id) =
      (world, .ok ((roomAfter world.events record.roomId after).take limit)) :=
    exec_ask! rfl
  rw [history, exec_then page, exec_guard (List.length_take_le _ _)]
  rfl

/-- What the pages find. -/
def searched (custodian : Custodian) (events : List Event) (record : Record) (pages : Nat)
    (after : Int) : Except CustodianError (Option String) :=
  match scanPage custodian record after
      ((roomAfter events record.roomId after).take (100 * pages)) with
  | .ok (some eventId, _) => .ok (some eventId)
  | .ok (none, _) =>
      if (roomAfter events record.roomId after).length < 100 * pages then .ok none
      else .error .invalidAuthorityResponse
  | .error problem => .error problem

/-- The pages are a scan of the first events. -/
theorem exec_findPages (ordered : Ordered world.events) (pages : Nat) (after : Int) :
    works.exec custodian world (findPages custodian record pages after) =
      (world, searched custodian world.events record pages after) := by
  induction pages generalizing after with
  | zero => simp [findPages, searched, scanPage]
  | succ pages ih =>
      rw [findPages, exec_then (exec_history after 100)]
      generalize isRoom : roomAfter world.events record.roomId after = room
      have parts : room.take (100 * (pages + 1)) = room.take 100 ++ (room.drop 100).take (100 * pages) := by
        rw [Nat.mul_add, Nat.add_comm, List.take_add]
      rw [searched, isRoom, parts, scanPage_append]
      cases scanned : scanPage custodian record after (room.take 100) with
      | error problem => rfl
      | ok result =>
          obtain ⟨found, next⟩ := result
          cases found with
          | some eventId => rfl
          | none =>
              change works.exec custodian world
                (if (room.take 100).length < 100 then pure none else findPages custodian record pages next) = _
              rw [List.length_take]
              by_cases short : room.length < 100
              · rw [if_pos (by omega), List.drop_eq_nil_of_le (by omega), List.take_nil]
                simp only [scanPage]
                rw [if_pos (by omega)]
                rfl
              · rw [if_neg (by omega), ih, searched]
                have enough : 99 < room.length := by omega
                have whole : room = room.take 99 ++ room[99] :: room.drop 100 := by
                  rw [← List.drop_eq_getElem_cons enough, List.take_append_drop]
                have isNext : next = room[99].sequence := by
                  rw [scanPage_last scanned, List.take_succ_eq_append_getElem enough,
                    List.getLast?_concat]
                  rfl
                have behind : roomAfter world.events record.roomId next = room.drop 100 := by
                  rw [isNext]
                  exact roomAfter_split ordered (isRoom.trans whole)
                have count : (room.drop 100).length < 100 * pages ↔ room.length < 100 * (pages + 1) := by
                  rw [List.length_drop]
                  omega
                rw [behind]
                simp only [count]

/-- The search leaves the world as it is, and finds the reply exactly when it is there. -/
theorem exec_findReply (ordered : Ordered world.events) (transmits : record.Transmits) :
    ∃ result, works.exec custodian world (findReply custodian record) = (world, result) ∧
      ((∃ eventId, result = .ok (some eventId) ∧ IsFound custodian world.events record ∧
          ∃ event ∈ world.events, IsReply custodian record event ∧ event.id = eventId) ∨
        ¬ IsFound custodian world.events record ∧
          (result = .ok none ∨ result = .error .invalidAuthorityResponse)) := by
  refine ⟨searched custodian world.events record 100 record.roomSequence, ?_, ?_⟩
  · rw [findReply, exec_guard transmits, exec_findPages ordered]
  generalize isRoom : roomAfter world.events record.roomId record.roomSequence = room
  have rising := @roomAfter_rising world.events record.roomId record.roomSequence ordered
  rw [isRoom] at rising
  have above : ∀ event ∈ room.take (100 * 100),
      record.roomSequence < event.sequence ∧ positive event.sequence = true := by
    intro event member
    rw [← isRoom] at member
    have inRoom := mem_roomAfter.mp (List.mem_of_mem_take member)
    exact ⟨inRoom.2.2, ordered.positive event inRoom.1⟩
  have finds := @scanPage_finds custodian record _ record.roomSequence
    (rising.sublist (List.take_sublist _ _)) above
  have isFound : IsFound custodian world.events record ↔
      ∃ before event rest, room.take (100 * 100) = before ++ event :: rest ∧
        (∀ other ∈ before, other.Passes record) ∧ IsReply custodian record event := by
    rw [IsFound, isRoom]
    constructor
    · rintro ⟨before, event, rest, rfl, few, passes, isReply⟩
      refine ⟨before, event, rest.take (9999 - before.length), ?_, passes, isReply⟩
      rw [List.take_append, List.take_of_length_le (by omega)]
      have more : 100 * 100 - before.length = (9999 - before.length) + 1 := by omega
      rw [more, List.take_succ_cons]
    · rintro ⟨before, event, rest, split, passes, isReply⟩
      refine ⟨before, event, rest ++ room.drop (100 * 100), ?_, ?_, passes, isReply⟩
      · calc
          room = room.take (100 * 100) ++ room.drop (100 * 100) := (List.take_append_drop _ _).symm
          _ = before ++ event :: (rest ++ room.drop (100 * 100)) := by
            rw [split, List.append_assoc, List.cons_append]
      · have length := congrArg List.length split
        rw [List.length_take, List.length_append, List.length_cons] at length
        omega
  rw [searched, isRoom, isFound, ← finds]
  cases scanned : scanPage custodian record record.roomSequence (room.take (100 * 100)) with
  | error problem =>
      right
      refine ⟨?_, .inr ?_⟩
      · rintro ⟨eventId, next, same⟩
        cases same
      · rw [scanPage_error scanned]
  | ok result =>
      obtain ⟨found, next⟩ := result
      cases found with
      | none =>
          right
          refine ⟨?_, ?_⟩
          · rintro ⟨eventId, after, same⟩
            cases same
          · dsimp only
            split
            · exact .inl rfl
            · exact .inr rfl
      | some eventId =>
          left
          refine ⟨eventId, rfl, ⟨eventId, next, rfl⟩, ?_⟩
          obtain ⟨event, member, isReply, isId⟩ := scanPage_found scanned
          refine ⟨event, ?_, isReply, isId⟩
          rw [← isRoom] at member
          exact (mem_roomAfter.mp (List.mem_of_mem_take member)).1

/-- The page of the delivered event is that event. -/
theorem roomAfter_head (ordered : Ordered events) (member : event ∈ events) :
    (roomAfter events event.roomId (event.sequence - 1)).take 1 = [event] := by
  have rising := @roomAfter_rising events event.roomId (event.sequence - 1) ordered
  have isThere : event ∈ roomAfter events event.roomId (event.sequence - 1) :=
    mem_roomAfter.mpr ⟨member, rfl, by omega⟩
  cases isRoom : roomAfter events event.roomId (event.sequence - 1) with
  | nil =>
      rw [isRoom] at isThere
      cases isThere
  | cons first rest =>
      have isFirst : first ∈ roomAfter events event.roomId (event.sequence - 1) := by
        rw [isRoom]
        exact List.mem_cons_self
      have above := (mem_roomAfter.mp isFirst).2.2
      rw [isRoom] at isThere rising
      rcases List.mem_cons.mp isThere with rfl | isRest
      · rfl
      · have before := (List.pairwise_cons.mp rising).1 event isRest
        omega

/-- Two events of one place are one event. -/
theorem Ordered.same (ordered : Ordered events) {first second : Event} (isFirst : first ∈ events)
    (isSecond : second ∈ events) (room : first.roomId = second.roomId)
    (sequence : first.sequence = second.sequence) : first = second := by
  have firstPage := roomAfter_head ordered isFirst
  rw [room, sequence, roomAfter_head ordered isSecond] at firstPage
  exact (List.head_eq_of_cons_eq firstPage).symm

/-- The delivered event is handed to the runner. -/
theorem exec_inbound (ordered : Ordered world.events) (transmits : record.Transmits) {event : Event}
    (member : event ∈ world.events) (isInbound : IsInbound custodian record event) :
    works.exec custodian world (inbound custodian record) =
      (world, .ok (inboundOf custodian record event)) := by
  have page : works.exec custodian world (history record (record.roomSequence - 1) 1) =
      (world, .ok [event]) := by
    rw [exec_history, ← isInbound.room, ← isInbound.sequence, roomAfter_head ordered member]
  rw [inbound, exec_guard transmits, exec_then page]
  exact exec_guard isInbound _ _

/-- An event that cannot be handed throws. -/
theorem exec_inbound_not (ordered : Ordered world.events) (transmits : record.Transmits)
    (named : Named world.events record.eventId record.roomId record.roomSequence)
    (notHanded : ¬ Handed custodian world.events record) :
    works.exec custodian world (inbound custodian record) =
      (world, .error .invalidAuthorityResponse) := by
  obtain ⟨event, member, -, room, sequence⟩ := named
  have page : works.exec custodian world (history record (record.roomSequence - 1) 1) =
      (world, .ok [event]) := by
    rw [exec_history, ← room, ← sequence, roomAfter_head ordered member]
  rw [inbound, exec_guard transmits, exec_then page]
  exact exec_guard_not (fun isInbound => notHanded ⟨event, member, isInbound⟩) _ _

end

end Triangle.LinuxRuntime
